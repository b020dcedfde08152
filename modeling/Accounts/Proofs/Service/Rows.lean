import Accounts.Proofs.Account.Rules
import Accounts.Proofs.Calendar.Instant
import Accounts.Proofs.Text.Fold

/-!
# What the rows of accounts satisfy

Rows are made from registrations and changed by revisions, both in normal form and without broken
rules.  So the email of a row is in normal form, its texts are trimmed and within their limits, and
its hash is one of a password that was allowed:

    r.prepare = .ok prepared   ->  (Draft.ofRegistration prepared hash).row id email time  is well formed
    d.prepare = .ok prepared   ->  row.revised prepared time  is well formed when  row  is
-/

namespace Accounts

open Calendar Text

variable {r prepared : Registration} {d revision : Details} {field : ProfileText} {email s : String}
  {value : LooseText} {row : Store.Row} {time : DateTime}

/-! ## Well-formed rows -/

/-- An email that an account can go by. -/
structure IsEmail (email : String) : Prop where
  nonempty : email ≠ ""
  length : email.length ≤ maxEmailLength
  normal : normalEmail (some email) = (email : LooseText)
  checked : checkEmail true (some email) = none

/-- A role that an account can have. -/
structure IsRole (role : String) : Prop where
  nonempty : role ≠ ""
  trimmed : strip role = role
  lowercase : lower role = role
  length : role.length ≤ ProfileText.role.limit

/-- A text of a profile; the names and the role are always there. -/
def Profile.text (p : Profile) : ProfileText → Option String
  | .firstName => some p.firstName
  | .lastName => some p.lastName
  | .role => some p.role
  | .about => p.about
  | .phoneNumber => p.phoneNumber
  | .address => p.address
  | .city => p.city
  | .gender => p.gender

/-- A text of a new row. -/
def Store.Draft.text (d : Draft) : ProfileText → Option String
  | .firstName => some d.firstName
  | .lastName => some d.lastName
  | .role => some d.role
  | .about => d.about
  | .phoneNumber => d.phoneNumber
  | .address => d.address
  | .city => d.city
  | .gender => d.gender

/-- What holds of every row of the table. -/
structure Store.Row.WellFormed (row : Store.Row) : Prop where
  email : IsEmail row.profile.email
  role : IsRole row.profile.role
  texts : ∀ field s, row.profile.text field = some s → strip s = s ∧ s.length ≤ field.limit
  postcode : ∀ n, row.profile.postcode = some n → 0 ≤ n
  hash : Password.IsHash row.hash
  /-- The hash was made from a password that breaks no rule. -/
  password : ∃ password : String, checkPassword (some password) = .ok none ∧
    Password.verify (some row.hash) password = .accepted
  created : row.profile.createdAt = row.profile.loginDate
  updated : row.profile.createdAt.instant ≤ row.profile.updatedAt.instant

/-! ## Rules that are kept -/

theorem checkEmail_eq_none (h : checkEmail true (some value) = none) :
    value.chars ≠ "" ∧ value.chars.length ≤ maxEmailLength := by
  have hallowed := (checkEmail_eq_none_iff true (some value)).1 h
  exact ⟨hallowed.present rfl, hallowed.length⟩

theorem normalEmail_coe (s : String) : normalEmail (some s) = (foldText s : LooseText) := rfl

theorem isEmail_foldText (h : checkEmail true (some (value.map foldText)) = none) :
    IsEmail (foldText value.chars) := by
  obtain ⟨hne, hlength⟩ := checkEmail_eq_none h
  have hwhole : value.map foldText = (foldText value.chars : LooseText) :=
    LooseText.eq_coe_of_isWhole (isWhole_of_required h)
  rw [hwhole] at h
  refine ⟨hne, hlength, ?_, h⟩
  rw [normalEmail_coe, foldText_foldText]

theorem checkText_eq_none (h : checkText field (some value) = none) :
    value.chars.length ≤ field.limit :=
  (checkText_eq_none_iff field (some value)).1 h value rfl

theorem checkPostcode_eq_none {n : Int} (h : checkPostcode (some n) = none) : 0 ≤ n :=
  (checkPostcode_eq_none_iff (some n)).1 h n rfl

theorem Details.profileViolations_eq_nil (h : d.profileViolations = []) :
    (∀ field, checkText field (d.text field) = none) ∧ checkPostcode d.postcode = none := by
  unfold profileViolations at h
  rw [List.append_eq_nil_iff, Option.toList_eq_nil_iff, List.filterMap_eq_nil_iff] at h
  refine ⟨fun field => h.1 field ?_, h.2⟩
  cases field <;> decide

/-- The texts and the postcode of a profile that breaks no rule are within their limits. -/
theorem Details.limits_of_profileViolations (h : d.profileViolations = []) :
    (∀ field value, d.text field = some value → value.chars.length ≤ field.limit) ∧
      ∀ n, d.postcode = some n → 0 ≤ n := by
  obtain ⟨htexts, hpostcode⟩ := profileViolations_eq_nil h
  refine ⟨fun field value hvalue => ?_, fun n hn => ?_⟩
  · have hcheck := htexts field
    rw [hvalue] at hcheck
    exact checkText_eq_none hcheck
  · rw [hn] at hpostcode
    exact checkPostcode_eq_none hpostcode

/-- The texts and the postcode of a registration that breaks no rule are within their limits. -/
theorem Registration.limits (h : r.prepare = .ok prepared) :
    (∀ field value, prepared.details.text field = some value → value.chars.length ≤ field.limit) ∧
      ∀ n, prepared.details.postcode = some n → 0 ≤ n := by
  obtain ⟨rfl, hviolations⟩ := Accounts.prepare_eq_ok h
  exact Details.limits_of_profileViolations (Registration.violations_eq_nil hviolations).2.2

/-- The texts and the postcode of a revision that breaks no rule are within their limits, and its email
is valid if it has one. -/
theorem Details.limits (h : d.prepare = .ok revision) :
    (∀ field value, revision.text field = some value → value.chars.length ≤ field.limit) ∧
      (∀ n, revision.postcode = some n → 0 ≤ n) ∧ checkEmail false revision.email = none := by
  obtain ⟨rfl, hviolations⟩ := Accounts.prepare_eq_ok h
  replace hviolations := Except.ok.inj hviolations
  unfold Details.violations at hviolations
  rw [List.append_eq_nil_iff, Option.toList_eq_nil_iff] at hviolations
  obtain ⟨htexts, hpostcode⟩ := Details.limits_of_profileViolations hviolations.2
  exact ⟨htexts, hpostcode, hviolations.1⟩

/-! ## Normal forms -/

theorem strip_of_map {o : Option LooseText} (h : o.map (·.map strip) = some value) :
    strip value.chars = value.chars := by
  obtain ⟨t, -, rfl⟩ := Option.map_eq_some_iff.1 h
  exact strip_strip t.chars

/-- The texts of a normal form are trimmed. -/
theorem Details.strip_normal (h : d.normal.text field = some value) :
    strip value.chars = value.chars := by
  cases field with
  | role =>
    obtain ⟨t, -, rfl⟩ := Option.map_eq_some_iff.1 h
    exact strip_foldText t.chars
  | firstName | lastName | about | phoneNumber | address | city | gender => exact strip_of_map h

theorem orElse_cases (s other : String) : s = "" ∧ orElse s other = other ∨ s ≠ "" ∧ orElse s other = s := by
  unfold orElse
  by_cases h : s = ""
  · exact .inl ⟨h, if_pos (String.isEmpty_iff.2 h)⟩
  · exact .inr ⟨h, if_neg (mt String.isEmpty_iff.1 h)⟩

theorem chars_orElse (t : LooseText) (other : String) :
    (t.orElse other).chars = orElse t.chars other := by
  unfold LooseText.orElse orElse
  split <;> rfl

theorem chars_getD_map (o : Option LooseText) (f : String → String) :
    (Option.getD (o.map fun t => t.map f) ("" : LooseText)).chars = ((charsOf o).map f).getD "" := by
  cases o <;> rfl

/-- The role of a registration in normal form. -/
def roleOf (role : Option LooseText) : String := orElse (((charsOf role).map foldText).getD "") defaultRole

theorem role_normal (r : Registration) :
    ∃ role, r.normal.details.role = some role ∧ role.chars = roleOf r.details.role := by
  refine ⟨_, rfl, ?_⟩
  rw [chars_orElse]
  exact congrArg (orElse · defaultRole) (chars_getD_map r.details.role foldText)

/-- A role is trimmed and in lowercase, and a missing one is replaced. -/
theorem isRole_roleOf {role : Option LooseText} (h : (roleOf role).length ≤ ProfileText.role.limit) :
    IsRole (roleOf role) := by
  unfold roleOf at h ⊢
  rcases orElse_cases (((charsOf role).map foldText).getD "") defaultRole with ⟨-, heq⟩ | ⟨hne, heq⟩
  · rw [heq]
    exact ⟨by decide, by decide +kernel, by decide +kernel, by decide⟩
  · rw [heq] at h ⊢
    cases role with
    | none => exact absurd rfl hne
    | some t => exact ⟨hne, strip_foldText t.chars, lower_foldText t.chars, h⟩

theorem strip_getD {f : String → String} (hf : ∀ t, strip (f t) = f t) (o : Option LooseText) :
    strip (((charsOf o).map f).getD "") = ((charsOf o).map f).getD "" := by
  cases o with
  | none =>
    show strip "" = ""
    decide
  | some t => exact hf t.chars

theorem strip_chars_getD {f : String → String} (hf : ∀ t, strip (f t) = f t) (o : Option LooseText) :
    strip (Option.getD (o.map fun t => t.map f) ("" : LooseText)).chars =
      (Option.getD (o.map fun t => t.map f) ("" : LooseText)).chars := by
  rw [chars_getD_map]
  exact strip_getD hf o

/-- The texts of a registration in normal form are trimmed. -/
theorem Registration.strip_normal (h : r.normal.details.text field = some value) :
    strip value.chars = value.chars := by
  cases field with
  | firstName =>
    rw [← Option.some.inj h]
    exact strip_chars_getD strip_strip r.details.firstName
  | lastName =>
    rw [← Option.some.inj h]
    exact strip_chars_getD strip_strip r.details.lastName
  | role =>
    obtain ⟨role, hrole, hchars⟩ := role_normal r
    rw [← Option.some.inj (hrole.symm.trans h), hchars]
    unfold roleOf
    rcases orElse_cases (((charsOf r.details.role).map foldText).getD "") defaultRole with
      ⟨-, heq⟩ | ⟨-, heq⟩
    · rw [heq]
      decide +kernel
    · rw [heq]
      exact strip_getD strip_foldText r.details.role
  | about | phoneNumber | address | city | gender => exact strip_of_map h

/-! ## Rows of registrations -/

/-- A new row has the texts of the normal form of its registration. -/
theorem text_ofRegistration (r : Registration) (hash : String) (field : ProfileText) :
    (Store.Draft.ofRegistration r.normal hash).text field =
      charsOf (r.normal.details.text field) := by
  cases field with
  | role =>
    have htwice (s : String) : orElse (orElse s defaultRole) defaultRole = orElse s defaultRole := by
      rcases orElse_cases s defaultRole with ⟨-, heq⟩ | ⟨hne, heq⟩
      · rw [heq]
        decide
      · rw [heq, heq]
    obtain ⟨role, hrole, hchars⟩ := role_normal r
    show some (orElse ((charsOf r.normal.details.role).getD "") defaultRole) =
      charsOf r.normal.details.role
    rw [hrole]
    show some (orElse role.chars defaultRole) = some role.chars
    rw [hchars]
    exact congrArg some (htwice _)
  | firstName | lastName | about | phoneNumber | address | city | gender => rfl

theorem text_row (r : Registration) (hash : String) (id : Uuid) (email : String) (time : DateTime)
    (field : ProfileText) :
    ((Store.Draft.ofRegistration r.normal hash).row id email time).profile.text field =
      charsOf (r.normal.details.text field) := by
  rw [← text_ofRegistration r hash]
  cases field <;> rfl

/-- A row has what a registration asks for, in normal form, and one time for everything. -/
structure Store.Row.AskedBy (r : Registration) (row : Row) : Prop where
  texts : ∀ field, row.profile.text field = charsOf (r.normal.details.text field)
  email : charsOf r.normal.details.email = some row.profile.email
  postcode : row.profile.postcode = r.details.postcode
  birthday : row.profile.birthday = r.details.birthday
  updated : row.profile.updatedAt = row.profile.createdAt
  login : row.profile.loginDate = row.profile.createdAt

/-- The row of a registration that breaks no rule has what it asks for. -/
theorem Store.Row.askedBy_of_prepare (h : r.prepare = .ok prepared) (hash : String) (id : Uuid)
    (time : DateTime) : AskedBy r
      ((Draft.ofRegistration prepared hash).row id (normalEmail r.details.email).chars time) := by
  have hemail := Registration.prepared_email h
  obtain ⟨rfl, -⟩ := prepare_eq_ok h
  exact ⟨fun field => text_row r hash id _ time field, congrArg charsOf hemail, rfl, rfl, rfl, rfl⟩

/-- The row of a registration that breaks no rule is well formed. -/
theorem wellFormed_row {salt hash : String} (hprepared : r.prepare = .ok prepared)
    (hhash : Password.hashLoose? salt (prepared.password.getD "") = some hash)
    (hemail : charsOf prepared.details.email = some email) (id : Uuid) (time : DateTime) :
    ((Store.Draft.ofRegistration prepared hash).row id email time).WellFormed := by
  obtain ⟨hpassword, hcheck, hallowed⟩ := Registration.prepare_eq_ok hprepared
  have hnormal := Registration.prepared_email hprepared
  obtain ⟨hlimit, hpostcode⟩ := Registration.limits hprepared
  obtain ⟨rfl, -⟩ := prepare_eq_ok hprepared
  obtain ⟨hwhole, hmade⟩ := Password.hashLoose?_eq_some.1 hhash
  obtain ⟨role, hrole, hchars⟩ := role_normal r
  have hrow : some ((Store.Draft.ofRegistration r.normal hash).row id email time).profile.role =
      charsOf (r.normal.details.text .role) := text_row r hash id email time .role
  refine ⟨?_, ?_, ?_, ?_, Password.isHash_of_hashWith? hmade, ?_, rfl, Int.le_refl _⟩
  · show IsEmail email
    rw [hnormal] at hemail
    rw [← Option.some.inj hemail]
    exact isEmail_foldText hcheck
  · rw [show r.normal.details.text .role = some role from hrole] at hrow
    rw [Option.some.inj hrow]
    show IsRole role.chars
    rw [hchars]
    exact isRole_roleOf (hchars ▸ hlimit .role role hrole)
  · intro field s hs
    rw [text_row] at hs
    obtain ⟨value, hvalue, rfl⟩ := Option.map_eq_some_iff.1 hs
    exact ⟨Registration.strip_normal hvalue, hlimit field value hvalue⟩
  · exact hpostcode
  · refine ⟨(r.normal.password.getD "").chars, ?_, Password.verify_own hmade⟩
    rw [← hpassword] at hallowed
    exact checkPassword_chars hallowed

/-! ## Rows after revisions -/

theorem someText_eq_some {o : Option LooseText} (h : someText o = some text) :
    o = some text ∧ text.chars ≠ "" := by
  obtain ⟨ho, hs⟩ := Option.filter_eq_some_iff.1 h
  exact ⟨ho, by simpa using hs⟩

/-- A text after a revision is a text of the revision that is not blank, or the one before. -/
theorem text_revised (h : (row.revised d time).profile.text field = some s) :
    charsOf (d.text field) = some s ∨ row.profile.text field = some s := by
  have hget {o : Option LooseText} {old : String}
      (h : some ((charsOf (someText o)).getD old) = some s) : charsOf o = some s ∨ some old = some s := by
    cases hsome : someText o with
    | none =>
      rw [hsome] at h
      exact .inr h
    | some t =>
      rw [hsome] at h
      rw [(someText_eq_some hsome).1]
      exact .inl h
  have hor {o : Option LooseText} {old : Option String}
      (h : (charsOf (someText o)).or old = some s) : charsOf o = some s ∨ old = some s := by
    cases hsome : someText o with
    | none =>
      rw [hsome] at h
      exact .inr h
    | some t =>
      rw [hsome] at h
      rw [(someText_eq_some hsome).1]
      exact .inl h
  cases field with
  | firstName | lastName | role => exact hget h
  | about | phoneNumber | address | city | gender => exact hor h

/-- A well-formed row stays so under a revision that breaks no rule, at a later time. -/
theorem Store.Row.WellFormed.revised (hrow : row.WellFormed) (hprepared : d.prepare = .ok revision)
    (htime : row.profile.createdAt.instant ≤ time.instant) : (row.revised revision time).WellFormed := by
  obtain ⟨hlimit, hpostcode, hemail⟩ := Details.limits hprepared
  obtain ⟨rfl, -⟩ := prepare_eq_ok hprepared
  have htext (field : ProfileText) (value : LooseText) (h : d.normal.text field = some value) :
      strip value.chars = value.chars ∧ value.chars.length ≤ field.limit :=
    ⟨Details.strip_normal h, hlimit field value h⟩
  refine ⟨?_, ?_, ?_, ?_, hrow.hash, hrow.password, hrow.created, htime⟩
  · show IsEmail ((charsOf (someText (d.email.map (·.map foldText)))).getD row.profile.email)
    cases hsome : someText (d.email.map (·.map foldText)) with
    | none => exact hrow.email
    | some e =>
      obtain ⟨he, hne⟩ := someText_eq_some hsome
      rw [show d.normal.email = some e from he] at hemail
      obtain ⟨t, -, rfl⟩ := Option.map_eq_some_iff.1 he
      exact isEmail_foldText (checkEmail_required hemail hne)
  · show IsRole ((charsOf (someText (d.role.map (·.map foldText)))).getD row.profile.role)
    cases hsome : someText (d.role.map (·.map foldText)) with
    | none => exact hrow.role
    | some e =>
      obtain ⟨he, hne⟩ := someText_eq_some hsome
      obtain ⟨htrimmed, hlength⟩ := htext .role e he
      obtain ⟨t, -, rfl⟩ := Option.map_eq_some_iff.1 he
      exact ⟨hne, htrimmed, lower_foldText t.chars, hlength⟩
  · intro field s hs
    rcases text_revised hs with hs | hs
    · obtain ⟨value, hvalue, rfl⟩ := Option.map_eq_some_iff.1 hs
      exact htext field value hvalue
    · exact hrow.texts field s hs
  · intro n hn
    have hn : (d.postcode.filter fun n => n != 0).or row.profile.postcode = some n := hn
    cases hfilter : d.postcode.filter fun n => n != 0 with
    | none =>
      rw [hfilter] at hn
      exact hrow.postcode n hn
    | some m =>
      rw [hfilter] at hn
      rw [← Option.some.inj hn]
      exact hpostcode m (Option.filter_eq_some_iff.1 hfilter).1

end Accounts
