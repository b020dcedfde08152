import Accounts.Proofs.Service.Revision

/-!
# Normal forms agree

A registration, a revision and an email each reach their normal form at once, and the three ways to
one agree on what they bring it to: the email that is looked for is the one that is stored, and a
text that is not blank is stored in one form by a registration and by a revision.

    r.normal.normal = r.normal                 d.normal.normal = d.normal
    the email of r.normal  =  normalEmail (the email of r)  =  the email looked for before
-/

namespace Accounts

open Accounts.Request (Within)
open Calendar Text

variable {s : String} {value : LooseText} {config : Identity.Config} {w : World} {x : Exchange}

/-! ## Texts -/

/-- Lowercase leaves no text empty that was not. -/
theorem lower_ne_empty (h : s ≠ "") : lower s ≠ "" := by
  intro hempty
  have hlist : lowerFrom [] s.toList = [] := by
    rw [lower] at hempty
    rw [← String.toList_ofList (l := lowerFrom [] s.toList), hempty]
    rfl
  cases hs : s.toList with
  | nil => exact h (String.toList_eq_nil_iff.1 hs)
  | cons c cs =>
    rw [hs, lowerFrom] at hlist
    exact (lowerAt_settled [] c cs).1 (List.append_eq_nil_iff.1 hlist).1

theorem foldText_ne_empty (h : strip s ≠ "") : foldText s ≠ "" := lower_ne_empty h

theorem foldText_empty : foldText "" = "" := by decide +kernel

/-- A function that a text reaches a fixed point of at once does so under an option. -/
theorem map_map_of_fixed {f : String → String} (hf : ∀ t, f (f t) = f t) (o : Option LooseText) :
    (o.map fun t => t.map f).map (fun t => t.map f) = o.map fun t => t.map f := by
  rw [Option.map_map]
  exact congrArg (fun g => o.map g) (funext (LooseText.map_map_of_fixed hf))

theorem map_getD {f : String → String} (hf : f "" = "") (o : Option LooseText) :
    Option.getD (o.map fun t => t.map f) ("" : LooseText) = (o.getD "").map f := by
  cases o with
  | none => rw [Option.map_none, Option.getD_none, LooseText.map_coe, hf]
  | some t => rfl

theorem getD_map_foldText (email : Option LooseText) :
    Option.getD (email.map fun t => t.map foldText) ("" : LooseText) = normalEmail email :=
  map_getD foldText_empty email

theorem LooseText.orElse_cases (t : LooseText) (other : String) :
    t.chars = "" ∧ t.orElse other = (other : LooseText) ∨ t.chars ≠ "" ∧ t.orElse other = t := by
  unfold LooseText.orElse
  by_cases h : t.chars = ""
  · exact .inl ⟨h, if_pos (String.isEmpty_iff.2 h)⟩
  · exact .inr ⟨h, if_neg (mt String.isEmpty_iff.1 h)⟩

/-- A role in normal form stays as it is. -/
theorem orElse_foldText (role : LooseText) :
    (((role.map foldText).orElse defaultRole).map foldText).orElse defaultRole =
      (role.map foldText).orElse defaultRole := by
  rcases LooseText.orElse_cases (role.map foldText) defaultRole with ⟨-, heq⟩ | ⟨-, heq⟩
  · rw [heq]
    decide +kernel
  · rw [heq, LooseText.map_map_of_fixed foldText_foldText, heq]

/-! ## Normal forms of inputs -/

theorem Details.normal_normal (d : Details) : d.normal.normal = d.normal := by
  unfold Details.normal
  simp only [map_map_of_fixed strip_strip, map_map_of_fixed foldText_foldText]

theorem Registration.normal_normal (r : Registration) : r.normal.normal = r.normal := by
  have hstrip : strip "" = "" := by decide
  have hname (o : Option LooseText) :
      (Option.getD (o.map fun t => t.map strip) ("" : LooseText)).map strip =
        Option.getD (o.map fun t => t.map strip) ("" : LooseText) := by
    rw [map_getD hstrip, LooseText.map_map_of_fixed strip_strip]
  have hrole (o : Option LooseText) :
      (((Option.getD (o.map fun t => t.map foldText) ("" : LooseText)).orElse defaultRole).map
          foldText).orElse defaultRole =
        (Option.getD (o.map fun t => t.map foldText) ("" : LooseText)).orElse defaultRole := by
    rw [map_getD foldText_empty]
    exact orElse_foldText _
  unfold Registration.normal Details.normal
  simp only [map_map_of_fixed strip_strip, map_map_of_fixed foldText_foldText, Option.map_some,
    Option.getD_some, hname, hrole]

theorem normalEmail_normalEmail (email : Option LooseText) :
    normalEmail (some (normalEmail email)) = normalEmail email :=
  LooseText.map_map_of_fixed foldText_foldText (email.getD "")

/-- A prepared value is prepared again without a change. -/
theorem prepare_of_prepare {α : Type} {normal : α → α}
    {report : α → Except EncodingFault (List Violation)} {a b : α}
    (hnormal : normal (normal a) = normal a) (h : prepare (normal a) (report (normal a)) = .ok b) :
    prepare (normal b) (report (normal b)) = .ok b := by
  obtain ⟨rfl, -⟩ := prepare_eq_ok h
  rw [hnormal]
  exact h

/-- An input reaches its normal form at once, and what was prepared is accepted as it is. -/
structure Settles (normal : α → α) (prepare : α → Except InputFault α) : Prop where
  normal : ∀ a, normal (normal a) = normal a
  prepared : ∀ a b, prepare a = .ok b → prepare b = .ok b

theorem Registration.settles : Settles Registration.normal Registration.prepare where
  normal := normal_normal
  prepared r _ := prepare_of_prepare (normal_normal r)

theorem Details.settles : Settles Details.normal Details.prepare where
  normal := normal_normal
  prepared d _ :=
    @prepare_of_prepare Details Details.normal (fun d => .ok d.violations) d _ (normal_normal d)

/-! ## One email -/

/-- An email has one form, whether it is looked for or stored.  None and an empty one are the same. -/
structure OneEmail : Prop where
  /-- What a registration looks for is the email of its normal form, which is the email of its row. -/
  ahead : ∀ config r w x email, x ∈ (Identity.register config r).trace w →
    x.request = .sql (.findByEmail email) → email = r.normal.details.email.getD ""
  inserted : ∀ (r : Registration) (hash : String),
    (Store.Draft.ofRegistration r.normal hash).email.getD "" = (normalEmail r.details.email).chars
  /-- A login looks for the normal form of its email. -/
  login : ∀ config c w x email, x ∈ (Identity.login config c).trace w →
    x.request = .sql (.findByEmail email) → email = normalEmail c.email
  registered : ∀ r : Registration, r.normal.details.email.getD "" = normalEmail r.details.email
  revised : ∀ d : Details, d.normal.email.getD "" = normalEmail d.email
  /-- The email of a row after a revision that gives one. -/
  replaced : ∀ (d : Details) (row : Store.Row) (time : DateTime), (normalEmail d.email).chars ≠ "" →
    (row.revised d.normal time).profile.email = (normalEmail d.email).chars

theorem Registration.email_normal (r : Registration) :
    r.normal.details.email.getD "" = normalEmail r.details.email := by
  rw [← getD_map_foldText]
  rfl

theorem Details.email_normal (d : Details) : d.normal.email.getD "" = normalEmail d.email := by
  rw [← getD_map_foldText]
  rfl

theorem oneEmail : OneEmail where
  ahead config r w x email hx hrequest := by
    have hasks : Within (Identity.RegisterStatement r) (fun _ => True) x.request :=
      Action.Asks.of_mem_trace (Identity.asks_register config r) hx
    rw [hrequest] at hasks
    rw [r.email_normal]
    rcases hasks with h | ⟨_, _, _, -, -, h⟩
    · exact Store.Statement.findByEmail.inj h
    · cases h
  inserted r _ := by
    rw [← r.email_normal]
    show (charsOf r.normal.details.email).getD "" = _
    cases r.normal.details.email <;> rfl
  login config c w x email hx hrequest := by
    have hasks : Within (· = .findByEmail (normalEmail c.email)) (fun _ => True) x.request :=
      Action.Asks.of_mem_trace (Identity.asks_login config c) hx
    rw [hrequest] at hasks
    exact Store.Statement.findByEmail.inj hasks
  registered := Registration.email_normal
  revised := Details.email_normal
  replaced d row time h := by
    rw [← d.email_normal] at h ⊢
    cases hemail : d.normal.email with
    | none =>
      rw [hemail] at h
      exact absurd rfl h
    | some email =>
      rw [hemail] at h
      have hasked : charsOf d.normal.email = some email.chars := congrArg charsOf hemail
      exact Option.some.inj ((row.changedTo_revised d time).email.replaced email.chars hasked h)

/-! ## One form of a text -/

theorem ProfileText.form_ne_empty (field : ProfileText) (h : strip s ≠ "") : field.form s ≠ "" := by
  cases field with
  | role => exact foldText_ne_empty h
  | firstName | lastName | about | phoneNumber | address | city | gender => exact h

/-- A text is stored in one form, in the row of a registration and in a row after a revision. -/
structure StoredAlike (r : Registration) (d : Details) (field : ProfileText) (form : LooseText) :
    Prop where
  registered : r.normal.details.text field = some form
  revised : d.normal.text field = some form
  inserted : ∀ hash id email time,
    ((Store.Draft.ofRegistration r.normal hash).row id email time).profile.text field =
      some form.chars
  replaced : ∀ (row : Store.Row) (time : DateTime),
    (row.revised d.normal time).profile.text field = some form.chars

theorem Details.text_normal_of_some {d : Details} {field : ProfileText}
    (h : d.text field = some value) : d.normal.text field = some (value.map field.form) := by
  rw [d.text_normal, h]
  rfl

theorem Registration.text_normal {r : Registration} {field : ProfileText}
    (h : r.details.text field = some value) (hs : strip value.chars ≠ "") :
    r.normal.details.text field = some (value.map field.form) := by
  have hnormal : r.details.normal.text field = some (value.map field.form) :=
    Details.text_normal_of_some h
  cases field with
  | firstName =>
    show some (r.details.normal.firstName.getD "") = _
    rw [show r.details.normal.firstName = some (value.map strip) from hnormal]
    rfl
  | lastName =>
    show some (r.details.normal.lastName.getD "") = _
    rw [show r.details.normal.lastName = some (value.map strip) from hnormal]
    rfl
  | role =>
    show some ((r.details.normal.role.getD "").orElse defaultRole) = some (value.map foldText)
    rw [show r.details.normal.role = some (value.map foldText) from hnormal, Option.getD_some]
    rcases LooseText.orElse_cases (value.map foldText) defaultRole with ⟨hempty, -⟩ | ⟨-, heq⟩
    · exact absurd hempty (foldText_ne_empty hs)
    · rw [heq]
  | about | phoneNumber | address | city | gender => exact hnormal

theorem storedAlike {r : Registration} {d : Details} {field : ProfileText}
    (hr : r.details.text field = some value) (hd : d.text field = some value)
    (hs : strip value.chars ≠ "") : StoredAlike r d field (value.map field.form) where
  registered := Registration.text_normal hr hs
  revised := Details.text_normal_of_some hd
  inserted hash id email time := by
    rw [text_row, Registration.text_normal hr hs]
    rfl
  replaced row time := ((row.changedTo_revised d time).texts field).replaced (field.form value.chars)
    (congrArg charsOf (Details.text_normal_of_some hd)) (field.form_ne_empty hs)

/-- **Normal forms agree and are stable.**  Inputs reach their normal forms at once, what was prepared
is accepted unchanged, an email and a text that is not blank have one form on every way into the
store, and passwords, postcodes and birthdays are not touched. -/
theorem normal_forms_agree :
    Settles Registration.normal Registration.prepare ∧
      Settles Details.normal Details.prepare ∧
      (∀ email, normalEmail (some (normalEmail email)) = normalEmail email) ∧
      OneEmail ∧
      (∀ (r : Registration) (d : Details) field value, r.details.text field = some value →
        d.text field = some value → strip value.chars ≠ "" →
          StoredAlike r d field (value.map field.form)) ∧
      (∀ r : Registration, r.normal.password = r.password ∧
        r.normal.details.postcode = r.details.postcode ∧
        r.normal.details.birthday = r.details.birthday) ∧
      ∀ d : Details, d.normal.postcode = d.postcode ∧ d.normal.birthday = d.birthday :=
  ⟨Registration.settles, Details.settles, normalEmail_normalEmail, oneEmail,
    fun _ _ _ _ => storedAlike, fun _ => ⟨rfl, rfl, rfl⟩, fun _ => ⟨rfl, rfl⟩⟩

/-- A role with blanks around it is stored in one form. -/
theorem normal_forms_agree_on_a_role :
    strip " Admin " ≠ "" ∧
      StoredAlike { details := { role := some " Admin " } } { role := some " Admin " } .role
        (foldText " Admin " : LooseText) := by
  have hblank : strip " Admin " ≠ "" := by decide +kernel
  obtain ⟨-, -, -, -, hstored, -⟩ := normal_forms_agree
  exact ⟨hblank, hstored _ _ .role " Admin " rfl rfl hblank⟩

end Accounts
