import Accounts.Account.Changes
import Accounts.Proofs.Password.Hash
import Accounts.Proofs.Program.Run

/-!
# Prepared input

Input that is accepted breaks no rule.  So its email and its password are whole texts, the password is
short enough to be hashed, and the email of a registration is the one that is looked for:

    r.prepare = .ok prepared  ->  prepared.details.email = some (normalEmail r.details.email)
-/

namespace Accounts

variable {α : Type}

/-! ## Emails and passwords -/

/-- An email that is valid and not blank is whole. -/
theorem isWhole_of_checkEmail {required : Bool} {email : LooseText}
    (h : checkEmail required (some email) = none) (hne : email.chars ≠ "") :
    email.isWhole = true := by
  unfold checkEmail at h
  dsimp only [Option.getD_some] at h
  rw [if_neg hne] at h
  split at h
  · cases h
  · split at h
    · rename_i haddress
      exact (Bool.and_eq_true _ _ ▸ haddress).1
    · cases h

/-- A valid email that is required is not blank. -/
theorem ne_empty_of_checkEmail {email : Option LooseText} (h : checkEmail true email = none) :
    (email.getD "").chars ≠ "" := by
  intro hblank
  unfold checkEmail at h
  dsimp only at h
  rw [if_pos hblank] at h
  cases h

/-- A valid email that is required is whole. -/
theorem isWhole_of_required {email : LooseText} (h : checkEmail true (some email) = none) :
    email.isWhole = true := isWhole_of_checkEmail h (ne_empty_of_checkEmail h)

/-- An email that is not blank is valid whether one is required or not. -/
theorem checkEmail_required {email : LooseText} (h : checkEmail false (some email) = none)
    (hne : email.chars ≠ "") : checkEmail true (some email) = none := by
  unfold checkEmail at h ⊢
  dsimp only [Option.getD_some] at h ⊢
  rw [if_neg hne] at h ⊢
  exact h

/-- A valid password is whole and short enough to be hashed. -/
theorem hashable_of_checkPassword {p : Option LooseText} (h : checkPassword p = .ok none) :
    (p.getD "").isWhole = true ∧ (p.getD "").chars.utf8ByteSize ≤ Password.maxBytes := by
  unfold checkPassword at h
  dsimp only at h
  split at h
  · cases h
  · split at h
    · cases h
    · cases hwhole : (p.getD "").whole with
      | error fault =>
        rw [hwhole] at h
        cases h
      | ok text =>
        obtain ⟨hp, rfl⟩ := LooseText.whole_eq_ok_iff.1 hwhole
        refine ⟨hp, Nat.le_of_not_lt fun hsize => ?_⟩
        rw [hwhole] at h
        cases (congrArg Except.ok (if_pos hsize)).symm.trans h

/-- The characters of a valid password are a valid password. -/
theorem checkPassword_chars {p : Option LooseText} (h : checkPassword p = .ok none) :
    checkPassword (some (p.getD "").chars) = .ok none := by
  rw [← LooseText.eq_coe_of_isWhole (hashable_of_checkPassword h).1]
  exact h

/-- A valid password is hashed whenever the settings are read. -/
theorem isSome_hashLoose? (salt : String) {p : Option LooseText} (h : checkPassword p = .ok none) :
    (Password.hashLoose? salt (p.getD "")).isSome = (Password.Settings.ofText? salt).isSome := by
  obtain ⟨hwhole, hsize⟩ := hashable_of_checkPassword h
  rw [Password.hashLoose?_of_isWhole hwhole, Password.isSome_hashWith? salt hsize]

/-! ## Whole texts -/

theorem all_isWhole_map {t : Option LooseText} (f : String → String)
    (h : t.all (·.isWhole) = true) : (t.map (·.map f)).all (·.isWhole) = true := by
  rw [Option.all_map]
  exact h

theorem all_isWhole_someText {t : Option LooseText} (h : t.all (·.isWhole) = true) :
    (someText t).all (·.isWhole) = true := by
  cases t with
  | none => rfl
  | some text =>
    unfold someText
    rw [Option.filter_some]
    split
    · exact h
    · rfl

/-- Whole texts by themselves: the email and the texts of the profile. -/
theorem Details.isWhole_iff {d : Details} : d.isWhole = true ↔
    d.email.all (·.isWhole) = true ∧ ∀ field, (d.text field).all (·.isWhole) = true := by
  unfold isWhole
  rw [Bool.and_eq_true, List.all_eq_true]
  exact and_congr_right fun _ =>
    ⟨fun h field => h field (by cases field <;> decide), fun h field _ => h field⟩

/-- The form in which a text of the profile is stored. -/
def ProfileText.form : ProfileText → String → String
  | .role => foldText
  | _ => Text.strip

theorem Details.text_normal (d : Details) (field : ProfileText) :
    d.normal.text field = (d.text field).map (·.map field.form) := by
  cases field <;> rfl

theorem Details.text_changes (d : Details) (field : ProfileText) :
    d.changes.text field = someText (d.text field) := by
  cases field <;> rfl

/-- Whole texts stay whole in normal form. -/
theorem Details.isWhole_normal {d : Details} (h : d.isWhole = true) : d.normal.isWhole = true := by
  obtain ⟨hemail, htexts⟩ := isWhole_iff.1 h
  refine isWhole_iff.2 ⟨all_isWhole_map foldText hemail, fun field => ?_⟩
  rw [d.text_normal field]
  exact all_isWhole_map field.form (htexts field)

theorem isWhole_getD {t : Option LooseText} (h : t.all (·.isWhole) = true) :
    (t.getD "").isWhole = true := by
  cases t with
  | none => rfl
  | some text => exact h

/-- The values that a registration gets by default are whole. -/
theorem Registration.isWhole_normal {r : Registration} (h : r.details.isWhole = true) :
    r.normal.details.isWhole = true := by
  obtain ⟨hemail, htexts⟩ := Details.isWhole_iff.1 (Details.isWhole_normal h)
  refine Details.isWhole_iff.2 ⟨hemail, fun field => ?_⟩
  cases field with
  | firstName => exact isWhole_getD (htexts .firstName)
  | lastName => exact isWhole_getD (htexts .lastName)
  | role =>
    have hrole : (r.details.normal.role.getD "").isWhole = true := isWhole_getD (htexts .role)
    show ((r.details.normal.role.getD "").orElse defaultRole).isWhole = true
    unfold LooseText.orElse
    split
    · rfl
    · exact hrole
  | about => exact htexts .about
  | phoneNumber => exact htexts .phoneNumber
  | address => exact htexts .address
  | city => exact htexts .city
  | gender => exact htexts .gender

/-- The changes of whole texts are whole. -/
theorem Details.isWhole_changes {d : Details} (h : d.isWhole = true) : d.changes.isWhole = true := by
  obtain ⟨hemail, htexts⟩ := isWhole_iff.1 h
  refine isWhole_iff.2 ⟨all_isWhole_someText hemail, fun field => ?_⟩
  rw [d.text_changes field]
  exact all_isWhole_someText (htexts field)

theorem isWhole_normalEmail {d : Details} (h : d.isWhole = true) :
    (normalEmail d.email).isWhole = true := by
  unfold normalEmail
  rw [LooseText.isWhole_map]
  exact isWhole_getD (Details.isWhole_iff.1 h).1

/-! ## Preparations -/

theorem prepare_eq_ok {normal prepared : α} {violations : Except EncodingFault (List Violation)}
    (h : prepare normal violations = .ok prepared) : prepared = normal ∧ violations = .ok [] := by
  unfold prepare at h
  split at h
  · cases h
    exact ⟨rfl, rfl⟩
  · cases h
  · cases h

/-- A registration breaks no rule when its email, its password and its profile break none. -/
theorem Registration.violations_eq_nil {r : Registration} (h : r.violations = .ok []) :
    checkEmail true r.details.email = none ∧ checkPassword r.password = .ok none ∧
      r.details.profileViolations = [] := by
  obtain ⟨password, hpassword, hnone⟩ := map_eq_ok h
  rw [List.append_eq_nil_iff, List.append_eq_nil_iff, Option.toList_eq_nil_iff,
    Option.toList_eq_nil_iff] at hnone
  exact ⟨hnone.1.1, hnone.1.2 ▸ hpassword, hnone.2⟩

/-- A valid registration has an email, in normal form. -/
theorem Registration.prepared_email {r prepared : Registration} (h : r.prepare = .ok prepared) :
    prepared.details.email = some (normalEmail r.details.email) := by
  obtain ⟨rfl, hviolations⟩ := Accounts.prepare_eq_ok h
  have hcheck := (Registration.violations_eq_nil hviolations).1
  have hmap : r.normal.details.email = r.details.email.map (·.map foldText) := rfl
  rw [hmap] at hcheck ⊢
  cases hemail : r.details.email with
  | some email => rfl
  | none =>
    rw [hemail] at hcheck
    cases hcheck

/-- The parts of a valid registration. -/
theorem Registration.prepare_eq_ok {r prepared : Registration} (h : r.prepare = .ok prepared) :
    prepared.password = r.password ∧ checkEmail true (some (normalEmail r.details.email)) = none ∧
      checkPassword r.password = .ok none := by
  have hemail := Registration.prepared_email h
  obtain ⟨rfl, hviolations⟩ := Accounts.prepare_eq_ok h
  obtain ⟨hcheck, hpassword, -⟩ := Registration.violations_eq_nil hviolations
  exact ⟨rfl, hemail ▸ hcheck, hpassword⟩

/-- The email of a valid registration is its characters. -/
theorem Registration.normalEmail_eq {r prepared : Registration} (h : r.prepare = .ok prepared) :
    normalEmail r.details.email = ((normalEmail r.details.email).chars : LooseText) :=
  LooseText.eq_coe_of_isWhole (isWhole_of_required (Registration.prepare_eq_ok h).2.1)

/-- The email of a valid change takes the place of another one, unless it is blank. -/
theorem Details.prepare_eq_ok {d prepared : Details} (h : d.prepare = .ok prepared) (email : String) :
    (charsOf prepared.changes.email).getD email = orElse (normalEmail d.email).chars email ∧
      (checkEmail true (some email) = none →
        checkEmail true (some (orElse (normalEmail d.email).chars email)) = none) := by
  obtain ⟨rfl, hviolations⟩ := Accounts.prepare_eq_ok h
  replace hviolations := Except.ok.inj hviolations
  unfold Details.violations at hviolations
  rw [List.append_eq_nil_iff, Option.toList_eq_nil_iff] at hviolations
  have hcheck : checkEmail false (d.email.map (·.map foldText)) = none := hviolations.1
  have hchanges : d.normal.changes.email = someText (d.email.map (·.map foldText)) := rfl
  rw [hchanges]
  cases hemail : d.email with
  | none =>
    have hblank : normalEmail none = "" := by decide
    rw [hblank]
    exact ⟨rfl, id⟩
  | some e =>
    have hnormal : normalEmail (some e) = e.map foldText := rfl
    rw [hemail, Option.map_some] at hcheck
    rw [hnormal, Option.map_some]
    generalize e.map foldText = e' at hcheck
    by_cases hblank : e'.chars = ""
    · unfold orElse someText charsOf
      rw [hblank, Option.filter_some, if_neg (by simpa using hblank)]
      exact ⟨rfl, id⟩
    · have hempty : e'.chars.isEmpty = false := by
        rw [Bool.eq_false_iff, ne_eq, String.isEmpty_iff]
        exact hblank
      unfold orElse someText charsOf
      rw [hempty, Option.filter_some, if_pos (by simpa using hblank)]
      refine ⟨rfl, fun _ => ?_⟩
      have hrequired := checkEmail_required hcheck hblank
      rw [LooseText.eq_coe_of_isWhole (isWhole_of_checkEmail hcheck hblank)] at hrequired
      exact hrequired

end Accounts
