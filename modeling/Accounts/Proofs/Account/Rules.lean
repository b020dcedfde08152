import Accounts.Proofs.Account.Prepared
import Mathlib.Data.List.Basic

/-!
# Every broken rule is reported once

A report goes through the fields in a fixed order and asks each of them for its own broken rule:

    violations = fields.filterMap (fun f => the broken rule of f on the value of f)

So a field is reported at most once, for its own value only, and a report is empty when every value
keeps the rule of its field.  One rule counts bytes, and there is no report at all on a password that is
long enough to have them counted and has none.
-/

namespace Accounts

/-! ## Rules -/

/-- What an email has to satisfy. -/
structure EmailAllowed (required : Bool) (email : LooseText) : Prop where
  present : required = true → email.chars ≠ ""
  length : email.chars.length ≤ 60
  address : email.chars ≠ "" → ∃ s, email.whole = .ok s ∧ Email.isAddress s = true

/-- What a password has to satisfy. -/
structure PasswordAllowed (password : LooseText) : Prop where
  present : password.chars ≠ ""
  long : 6 ≤ password.chars.length
  bytes : ∃ s, password.whole = .ok s ∧ s.utf8ByteSize ≤ 72

/-- A field with a rule of its own. -/
inductive Ruled where
  | email (required : Bool)
  | password
  | text (field : ProfileText)
  | postcode
  deriving DecidableEq

namespace Ruled

/-- The name of the field in a report. -/
def name : Ruled → String
  | email _ => "email"
  | password => "password"
  | text field => field.name
  | postcode => "postcode"

/-- The values of the field; every field may be left out. -/
def Value : Ruled → Type
  | email _ | password | text _ => Option LooseText
  | postcode => Option Int

/-- A value keeps the rule of its field. -/
def Keeps : (f : Ruled) → f.Value → Prop
  | email required, value => EmailAllowed required (Option.getD value "")
  | password, value => PasswordAllowed (Option.getD value "")
  | text field, value => ∀ s, value = some s → s.chars.length ≤ field.limit
  | postcode, value => ∀ n, value = some n → 0 ≤ n

/-- A password has the characters that it needs, and no bytes to count. -/
def Uncounted : (f : Ruled) → f.Value → Prop
  | password, value => 6 ≤ (Option.getD value ("" : LooseText)).chars.length ∧
      (Option.getD value ("" : LooseText)).isWhole = false
  | _, _ => False

/-- The broken rule of a field. -/
def check : (f : Ruled) → f.Value → Except EncodingFault (Option Violation)
  | email required, value => .ok (checkEmail required value)
  | password, value => Accounts.checkPassword value
  | text field, value => .ok (checkText field value)
  | postcode, value => .ok (checkPostcode value)

/-- The fields of a profile that have rules, in their order. -/
def profile : List Ruled := ProfileText.all.map text ++ [postcode]

/-- The fields of a registration that have rules, in their order. -/
def registration : List Ruled := [email true, password] ++ profile

/-- The fields of a revision that have rules, in their order. -/
def revision : List Ruled := [email false] ++ profile

/-- The fields of credentials, in their order. -/
def credentials : List Ruled := [email true, password]

end Ruled

/-- The value of a field of a profile. -/
def Details.value (d : Details) (password : Option LooseText) : (f : Ruled) → f.Value
  | .email _ => d.email
  | .password => password
  | .text field => d.text field
  | .postcode => d.postcode

/-- The value of a field of a registration. -/
def Registration.value (r : Registration) : (f : Ruled) → f.Value := r.details.value r.password

/-- The value of a field of a revision, which has no password. -/
def Details.revisionValue (d : Details) : (f : Ruled) → f.Value := d.value none

/-- The value of a field of credentials, with the email in normal form. -/
def Credentials.value (c : Credentials) : (f : Ruled) → f.Value :=
  Details.value { email := some (normalEmail c.email) } c.password

/-- The report on an input names the fields whose rules are broken: in their order, each of them
once, and each for its own value. -/
structure ReportsOnce (fields : List Ruled) (value : α → (f : Ruled) → f.Value)
    (report : α → Except EncodingFault (List Violation)) (x : α) : Prop where
  ordered : ∀ violations, report x = .ok violations →
    (violations.map (·.field)).Sublist (fields.map (·.name))
  once : ∀ violations, report x = .ok violations → (violations.map (·.field)).Nodup
  exact : ∀ violations, report x = .ok violations →
    ∀ f ∈ fields, f.name ∈ violations.map (·.field) ↔ ¬ f.Keeps (value x f)
  /-- What is said of a field is said of it in every input where it has that value. -/
  alone : ∀ y violations others, report x = .ok violations → report y = .ok others →
    ∀ f ∈ fields, value x f = value y f →
      violations.filter (fun v => v.field = f.name) = others.filter fun v => v.field = f.name
  empty : report x = .ok [] ↔ ∀ f ∈ fields, f.Keeps (value x f)
  /-- There is no report when the bytes of a password would have to be counted and it has none. -/
  stopped : (∃ fault, report x = .error fault) ↔ ∃ f ∈ fields, f.Uncounted (value x f)

/-! ## One field -/

/-- An email that is not blank is an address when it is whole and its characters are one. -/
theorem exists_address_iff (email : LooseText) :
    (∃ s, email.whole = .ok s ∧ Email.isAddress s = true) ↔
      (email.isWhole && Email.isAddress email.chars) = true := by
  rw [Bool.and_eq_true]
  constructor
  · rintro ⟨s, hwhole, haddress⟩
    obtain ⟨hw, rfl⟩ := LooseText.whole_eq_ok_iff.1 hwhole
    exact ⟨hw, haddress⟩
  · rintro ⟨hw, haddress⟩
    exact ⟨_, LooseText.whole_of_isWhole hw, haddress⟩

theorem checkEmail_eq_none_iff (required : Bool) (email : Option LooseText) :
    checkEmail required email = none ↔ EmailAllowed required (email.getD "") := by
  unfold checkEmail
  generalize email.getD "" = e
  dsimp only
  constructor
  · intro h
    split at h
    · rename_i hblank
      split at h
      · cases h
      · rename_i hoptional
        exact ⟨fun hrequired => absurd hrequired hoptional, by simp [hblank],
          fun hne => absurd hblank hne⟩
    · rename_i hne
      split at h
      · cases h
      · rename_i hlength
        split at h
        · rename_i haddress
          exact ⟨fun _ => hne, Nat.not_lt.1 hlength, fun _ => (exists_address_iff e).2 haddress⟩
        · cases h
  · intro ⟨hpresent, hlength, haddress⟩
    by_cases hblank : e.chars = ""
    · rw [if_pos hblank, if_neg fun hrequired => hpresent hrequired hblank]
    · have hfits : ¬ maxEmailLength < e.chars.length := Nat.not_lt.2 hlength
      rw [if_neg hblank, if_neg hfits, if_pos ((exists_address_iff e).1 (haddress hblank))]

theorem checkPassword_eq_none_iff_allowed (password : Option LooseText) :
    checkPassword password = .ok none ↔ PasswordAllowed (password.getD "") := by
  constructor
  · intro h
    obtain ⟨hwhole, hbytes⟩ := hashable_of_checkPassword h
    unfold checkPassword at h
    generalize password.getD "" = p at h hwhole hbytes
    dsimp only at h
    split at h
    · cases h
    · rename_i hne
      split at h
      · cases h
      · rename_i hlong
        exact ⟨hne, Nat.not_lt.1 hlong, _, LooseText.whole_of_isWhole hwhole, hbytes⟩
  · intro ⟨hne, hlong, s, hwhole, hbytes⟩
    unfold checkPassword
    generalize password.getD "" = p at hne hlong hwhole
    have henough : ¬ p.chars.length < minPasswordLength := Nat.not_lt.2 hlong
    have hfits : ¬ maxPasswordBytes < s.utf8ByteSize := Nat.not_lt.2 hbytes
    dsimp only
    rw [if_neg hne, if_neg henough, hwhole]
    exact congrArg Except.ok (if_neg hfits)

/-- The bytes of a password are counted last, and only then it matters whether there are any. -/
theorem checkPassword_eq_error_iff (password : Option LooseText) :
    (∃ fault, checkPassword password = .error fault) ↔
      6 ≤ (password.getD "").chars.length ∧ (password.getD "").isWhole = false := by
  unfold checkPassword
  generalize password.getD "" = p
  dsimp only
  constructor
  · rintro ⟨fault, h⟩
    split at h
    · cases h
    · split at h
      · cases h
      · rename_i hlong
        refine ⟨Nat.not_lt.1 hlong, Bool.eq_false_iff.2 fun hwhole => ?_⟩
        rw [LooseText.whole_of_isWhole hwhole] at h
        cases h
  · rintro ⟨hlong, hbroken⟩
    have hne : p.chars ≠ "" := by
      intro hblank
      rw [hblank] at hlong
      cases hlong
    have henough : ¬ p.chars.length < minPasswordLength := Nat.not_lt.2 hlong
    have hwhole : p.whole = .error .surrogate := by
      unfold LooseText.whole
      rw [hbroken]
      rfl
    rw [if_neg hne, if_neg henough, hwhole]
    exact ⟨_, rfl⟩

theorem checkText_eq_none_iff (field : ProfileText) (value : Option LooseText) :
    checkText field value = none ↔ ∀ s, value = some s → s.chars.length ≤ field.limit := by
  unfold checkText
  cases value with
  | none => simp
  | some s => simp

theorem checkPostcode_eq_none_iff (postcode : Option Int) :
    checkPostcode postcode = none ↔ ∀ n, postcode = some n → 0 ≤ n := by
  unfold checkPostcode
  cases postcode with
  | none => simp
  | some n => simp

namespace Ruled

/-- A field is checked for its own rule. -/
theorem check_eq_none_iff (f : Ruled) (value : f.Value) :
    f.check value = .ok none ↔ f.Keeps value := by
  cases f with
  | password => exact checkPassword_eq_none_iff_allowed value
  | email required => exact (Except.ok.injEq _ _).to_iff.trans (checkEmail_eq_none_iff required value)
  | text field => exact (Except.ok.injEq _ _).to_iff.trans (checkText_eq_none_iff field value)
  | postcode => exact (Except.ok.injEq _ _).to_iff.trans (checkPostcode_eq_none_iff value)

/-- Checking fails for a password without bytes alone. -/
theorem check_eq_error_iff (f : Ruled) (value : f.Value) :
    (∃ fault, f.check value = .error fault) ↔ f.Uncounted value := by
  cases f with
  | password => exact checkPassword_eq_error_iff value
  | email | text | postcode =>
    unfold check Uncounted
    simp

/-- A broken rule is reported under the name of its field. -/
theorem field_of_check {f : Ruled} {value : f.Value} {v : Violation}
    (h : f.check value = .ok (some v)) : v.field = f.name := by
  cases f with
  | email required =>
    have h : checkEmail required value = some v := Except.ok.inj h
    unfold checkEmail at h
    grind [name]
  | password =>
    have h : Accounts.checkPassword value = .ok (some v) := h
    unfold Accounts.checkPassword LooseText.whole at h
    grind [name, Except.map]
  | text field =>
    have h : checkText field value = some v := Except.ok.inj h
    unfold checkText at h
    grind [name]
  | postcode =>
    have h : checkPostcode value = some v := Except.ok.inj h
    unfold checkPostcode at h
    grind [name]

/-- What there is to report of a field, when it can be checked. -/
def told (f : Ruled) (value : f.Value) : Option Violation := (f.check value).toOption.join

theorem check_of_counted {f : Ruled} {value : f.Value} (h : ¬ f.Uncounted value) :
    f.check value = .ok (f.told value) := by
  unfold told
  cases hcheck : f.check value with
  | ok broken => rfl
  | error fault => exact absurd ((check_eq_error_iff f value).1 ⟨fault, hcheck⟩) h

theorem field_of_told {f : Ruled} {value : f.Value} {v : Violation} (h : f.told value = some v) :
    v.field = f.name := by
  unfold told at h
  cases hcheck : f.check value with
  | ok broken =>
    rw [hcheck] at h
    exact field_of_check (hcheck.trans (congrArg Except.ok h))
  | error fault =>
    rw [hcheck] at h
    cases h

end Ruled

/-! ## All fields -/

/-- The broken rules of fields, checked one after the other. -/
def brokenRules : List Ruled → ((f : Ruled) → f.Value) → Except EncodingFault (List Violation)
  | [], _ => .ok []
  | f :: fields, value => do
    let broken ← f.check (value f)
    let others ← brokenRules fields value
    return broken.toList ++ others

/-- What there is to report of fields. -/
def toldOf (fields : List Ruled) (value : (f : Ruled) → f.Value) : List Violation :=
  fields.filterMap fun f => f.told (value f)

variable {fields : List Ruled} {value other : (f : Ruled) → f.Value}

theorem brokenRules_cons (f : Ruled) (fields : List Ruled) (value : (f : Ruled) → f.Value) :
    brokenRules (f :: fields) value = (do
      let broken ← f.check (value f)
      let others ← brokenRules fields value
      return broken.toList ++ others) := rfl

theorem toldOf_cons (f : Ruled) (fields : List Ruled) (value : (f : Ruled) → f.Value) :
    toldOf (f :: fields) value = (f.told (value f)).toList ++ toldOf fields value := by
  unfold toldOf
  rw [List.filterMap_cons]
  cases f.told (value f) <;> rfl

/-- Fields that can be checked are all reported on. -/
theorem brokenRules_of_counted (h : ∀ f ∈ fields, ¬ f.Uncounted (value f)) :
    brokenRules fields value = .ok (toldOf fields value) := by
  induction fields with
  | nil => rfl
  | cons f fields ih =>
    rw [brokenRules_cons, Ruled.check_of_counted (h f List.mem_cons_self),
      ih fun g hg => h g (List.mem_cons_of_mem f hg), toldOf_cons]
    rfl

/-- Fields are not reported on when one of them cannot be checked. -/
theorem brokenRules_eq_error_iff : (∃ fault, brokenRules fields value = .error fault) ↔
    ∃ f ∈ fields, f.Uncounted (value f) := by
  induction fields with
  | nil => exact ⟨fun ⟨_, h⟩ => (nomatch h), fun ⟨_, h, _⟩ => (nomatch h)⟩
  | cons f fields ih =>
    rw [List.exists_mem_cons_iff, ← ih, ← f.check_eq_error_iff, brokenRules_cons]
    cases f.check (value f) with
    | error fault => exact ⟨fun _ => .inl ⟨fault, rfl⟩, fun _ => ⟨fault, rfl⟩⟩
    | ok broken =>
      cases brokenRules fields value with
      | error fault => exact ⟨fun _ => .inr ⟨fault, rfl⟩, fun _ => ⟨fault, rfl⟩⟩
      | ok others =>
        constructor
        · rintro ⟨_, h⟩
          cases h
        · rintro (⟨_, h⟩ | ⟨_, h⟩) <;> cases h

/-- A report tells of every field. -/
theorem counted_of_brokenRules {violations : List Violation}
    (h : brokenRules fields value = .ok violations) :
    (∀ f ∈ fields, ¬ f.Uncounted (value f)) ∧ violations = toldOf fields value := by
  have hcounted : ∀ f ∈ fields, ¬ f.Uncounted (value f) := by
    intro f hf huncounted
    obtain ⟨fault, hfault⟩ := brokenRules_eq_error_iff.2 ⟨f, hf, huncounted⟩
    cases h.symm.trans hfault
  exact ⟨hcounted, Except.ok.inj (h.symm.trans (brokenRules_of_counted hcounted))⟩

/-- The reported fields are some of the fields, in their order. -/
theorem toldOf_sublist (fields : List Ruled) (value : (f : Ruled) → f.Value) :
    ((toldOf fields value).map (·.field)).Sublist (fields.map (·.name)) := by
  induction fields with
  | nil => exact List.Sublist.slnil
  | cons f fields ih =>
    rw [toldOf_cons, List.map_append]
    cases h : f.told (value f) with
    | none => exact ih.cons f.name
    | some v =>
      show List.Sublist (v.field :: _) (f.name :: _)
      rw [Ruled.field_of_told h]
      exact ih.cons_cons f.name

/-- A report is empty when every field keeps its rule. -/
theorem brokenRules_eq_nil_iff :
    brokenRules fields value = .ok [] ↔ ∀ f ∈ fields, f.Keeps (value f) := by
  constructor
  · intro h f hf
    obtain ⟨hcounted, hnone⟩ := counted_of_brokenRules h
    rw [← f.check_eq_none_iff, Ruled.check_of_counted (hcounted f hf),
      List.filterMap_eq_nil_iff.1 hnone.symm f hf]
  · intro h
    have hcheck (f : Ruled) (hf : f ∈ fields) : f.check (value f) = .ok none :=
      (f.check_eq_none_iff _).2 (h f hf)
    have hcounted : ∀ f ∈ fields, ¬ f.Uncounted (value f) := by
      intro f hf huncounted
      obtain ⟨fault, hfault⟩ := (f.check_eq_error_iff _).2 huncounted
      cases (hcheck f hf).symm.trans hfault
    rw [brokenRules_of_counted hcounted]
    refine congrArg Except.ok (List.filterMap_eq_nil_iff.2 fun f hf => ?_)
    exact Except.ok.inj ((Ruled.check_of_counted (hcounted f hf)).symm.trans (hcheck f hf))

/-- When no two fields have one name, what is reported under the name of a field is the broken rule
of that field. -/
theorem filter_toldOf (hnames : (fields.map (·.name)).Nodup) {f : Ruled} (hf : f ∈ fields)
    (value : (f : Ruled) → f.Value) :
    (toldOf fields value).filter (fun v => v.field = f.name) = (f.told (value f)).toList := by
  induction fields with
  | nil => cases hf
  | cons g fields ih =>
    obtain ⟨hg, hnames⟩ := List.nodup_cons.1 hnames
    rw [toldOf_cons, List.filter_append]
    rcases List.mem_cons.1 hf with rfl | hf
    · -- the other fields have other names
      have hrest : (toldOf fields value).filter (fun v => v.field = f.name) = [] := by
        refine List.filter_eq_nil_iff.2 fun v hv heq => hg ?_
        show f.name ∈ fields.map (·.name)
        rw [← of_decide_eq_true heq]
        exact (toldOf_sublist fields value).subset (List.mem_map_of_mem hv)
      have hown : (f.told (value f)).toList.filter (fun v => v.field = f.name) =
          (f.told (value f)).toList := by
        refine List.filter_eq_self.2 fun v hv => decide_eq_true ?_
        exact Ruled.field_of_told (Option.mem_toList.1 hv)
      rw [hrest, hown, List.append_nil]
    · have hother : (g.told (value g)).toList.filter (fun v => v.field = f.name) = [] := by
        refine List.filter_eq_nil_iff.2 fun v hv heq => hg ?_
        show g.name ∈ fields.map (·.name)
        rw [← Ruled.field_of_told (Option.mem_toList.1 hv), of_decide_eq_true heq]
        exact List.mem_map_of_mem hf
      rw [hother, List.nil_append, ih hnames hf]

/-- A report that goes through fields with different names reports each broken rule once. -/
theorem reportsOnce {α : Type} {value : α → (f : Ruled) → f.Value}
    {report : α → Except EncodingFault (List Violation)}
    (hreport : ∀ x, report x = brokenRules fields (value x)) (hnames : (fields.map (·.name)).Nodup)
    (x : α) : ReportsOnce fields value report x where
  ordered violations h := by
    rw [hreport] at h
    rw [(counted_of_brokenRules h).2]
    exact toldOf_sublist fields (value x)
  once violations h := by
    rw [hreport] at h
    rw [(counted_of_brokenRules h).2]
    exact (toldOf_sublist fields (value x)).nodup hnames
  exact violations h f hf := by
    rw [hreport] at h
    obtain ⟨hcounted, rfl⟩ := counted_of_brokenRules h
    have hown := filter_toldOf hnames hf (value x)
    rw [← f.check_eq_none_iff (value x f), Ruled.check_of_counted (hcounted f hf)]
    constructor
    · intro hmem hnone
      obtain ⟨v, hv, hfield⟩ := List.mem_map.1 hmem
      rw [Except.ok.inj hnone, Option.toList_none] at hown
      exact List.filter_eq_nil_iff.1 hown v hv (decide_eq_true hfield)
    · intro hbroken
      obtain ⟨v, hv⟩ := Option.ne_none_iff_exists'.1 fun hnone => hbroken (congrArg Except.ok hnone)
      refine List.mem_map.2 ⟨v, ?_, Ruled.field_of_told hv⟩
      exact List.mem_filterMap.2 ⟨f, hf, hv⟩
  alone y violations others hx hy f hf heq := by
    rw [hreport] at hx hy
    rw [(counted_of_brokenRules hx).2, (counted_of_brokenRules hy).2, filter_toldOf hnames hf,
      filter_toldOf hnames hf, heq]
  empty := by
    rw [hreport]
    exact brokenRules_eq_nil_iff
  stopped := by
    rw [hreport]
    exact brokenRules_eq_error_iff

/-! ## The three reports -/

/-- The fields of a profile can always be checked. -/
theorem brokenRules_profile (d : Details) (password : Option LooseText) :
    brokenRules Ruled.profile (d.value password) = .ok d.profileViolations := by
  have hcounted : ∀ f ∈ Ruled.profile, ¬ f.Uncounted (d.value password f) := by
    intro f hf huncounted
    cases f with
    | email | text | postcode => exact huncounted
    | password => exact absurd hf (by decide)
  rw [brokenRules_of_counted hcounted]
  refine congrArg Except.ok ?_
  unfold toldOf Ruled.profile Details.profileViolations
  rw [List.filterMap_append, List.filterMap_map]
  congr 1

theorem Registration.violations_eq (r : Registration) :
    r.violations = brokenRules Ruled.registration r.value := by
  have hprofile := brokenRules_profile r.details r.password
  unfold violations Ruled.registration value
  rw [List.cons_append, List.singleton_append, brokenRules_cons, brokenRules_cons, hprofile]
  show _ = (do
    let others ← (do
      let password ← checkPassword r.password
      return password.toList ++ r.details.profileViolations)
    return (checkEmail true r.details.email).toList ++ others)
  cases checkPassword r.password with
  | error fault => rfl
  | ok password => exact congrArg Except.ok (List.append_assoc _ _ _)

theorem Details.violations_eq (d : Details) :
    .ok d.violations = brokenRules Ruled.revision d.revisionValue := by
  have hprofile := brokenRules_profile d none
  unfold Ruled.revision revisionValue
  rw [List.singleton_append, brokenRules_cons, hprofile]
  rfl

theorem Credentials.violations_eq (c : Credentials) :
    c.violations = brokenRules Ruled.credentials c.value := by
  unfold violations Ruled.credentials
  rw [brokenRules_cons, brokenRules_cons]
  show _ = (do
    let others ← (do
      let password ← checkPassword c.password
      return password.toList ++ [])
    return (checkEmail true (some (normalEmail c.email))).toList ++ others)
  generalize (checkEmail true (some (normalEmail c.email))).toList = email
  cases checkPassword c.password with
  | error fault => rfl
  | ok password =>
    show Except.ok (email ++ password.toList) = .ok (email ++ (password.toList ++ []))
    rw [List.append_nil]

/-! ## Preparation -/

/-- Preparing an input gives its normal form when the values there keep their rules.  Otherwise it
fails with the whole report on the normal form, or with what kept that report from being made. -/
structure PreparesBy (fields : List Ruled) (value : α → (f : Ruled) → f.Value) (normal : α → α)
    (report : α → Except EncodingFault (List Violation)) (prepare : α → Except InputFault α) (x : α) :
    Prop where
  accepted : ∀ y, prepare x = .ok y ↔ y = normal x ∧ ∀ f ∈ fields, f.Keeps (value (normal x) f)
  refused : ∀ broken, prepare x = .error (.invalid broken) ↔
    report (normal x) = .ok broken ∧ broken ≠ []
  stopped : ∀ fault, prepare x = .error (.encoding fault) ↔ report (normal x) = .error fault

theorem preparesBy {α : Type} {value : α → (f : Ruled) → f.Value} {normal : α → α}
    {report : α → Except EncodingFault (List Violation)} {x : α}
    (hreport : ReportsOnce fields value report (normal x)) :
    PreparesBy fields value normal report (fun x => prepare (normal x) (report (normal x))) x where
  accepted y := by
    rw [← hreport.empty]
    constructor
    · exact prepare_eq_ok
    · rintro ⟨rfl, hnone⟩
      rw [hnone]
      rfl
  refused broken := by
    unfold prepare
    rcases report (normal x) with fault | _ | ⟨v, violations⟩
    · simp
    · simp
    · simp
      grind
  stopped fault := by
    unfold prepare
    rcases report (normal x) with fault | _ | ⟨v, violations⟩ <;> simp

/-- **Validation reports every problem once.**  The reports on registrations, revisions and
credentials name the fields whose own rules are broken, and preparing an input fails with the whole
report on its normal form, or gives that normal form.  Only a password that has enough characters and
no bytes keeps a report from being made. -/
theorem every_broken_rule_is_reported_once (r : Registration) (d : Details) (c : Credentials) :
    ReportsOnce Ruled.registration Registration.value Registration.violations r ∧
      ReportsOnce Ruled.revision Details.revisionValue (fun d => .ok d.violations) d ∧
      ReportsOnce Ruled.credentials Credentials.value Credentials.violations c ∧
      PreparesBy Ruled.registration Registration.value Registration.normal Registration.violations
        Registration.prepare r ∧
      PreparesBy Ruled.revision Details.revisionValue Details.normal (fun d => .ok d.violations)
        Details.prepare d := by
  have hregistration (r : Registration) :
      ReportsOnce Ruled.registration Registration.value Registration.violations r :=
    reportsOnce Registration.violations_eq (by decide) r
  have hrevision (d : Details) :
      ReportsOnce Ruled.revision Details.revisionValue (fun d => .ok d.violations) d :=
    reportsOnce Details.violations_eq (by decide) d
  have hcredentials : ReportsOnce Ruled.credentials Credentials.value Credentials.violations c :=
    reportsOnce Credentials.violations_eq (by decide) c
  exact ⟨hregistration r, hrevision d, hcredentials, preparesBy (hregistration r.normal),
    preparesBy (hrevision d.normal)⟩

/-- A password of 73 letters, and a surrogate behind them. -/
def endlessPassword : LooseText := ⟨String.ofList (List.replicate 73 'a' ++ ['\ufffd']), false⟩

/-- There is no report on a registration with a password that is too long and broken: not even its
missing email is named. -/
theorem no_report_on_broken_password :
    Registration.violations { password := some endlessPassword } = .error .surrogate ∧
      Registration.prepare { password := some endlessPassword } = .error (.encoding .surrogate) ∧
      Credentials.violations { password := some endlessPassword } = .error .surrogate := by
  decide +kernel

example : Ruled.registration.map (·.name) = ["email", "password", "first_name", "last_name", "role",
    "about", "phone_number", "address", "city", "gender", "postcode"] := by decide

example : (Registration.violations { details := { postcode := some (-1) } }).map
    (List.map (·.field)) = .ok ["email", "password", "postcode"] := by decide

end Accounts
