import Accounts.Account.Basic
import Accounts.Input.Scalar

/-!
# Reading accounts and requests

The members of a JSON object are read field by field, in the order of the fields, and every
problem is reported.  Members of other names are ignored.  The texts of a request may be broken; an
account is only read from JSON that has no broken string.
-/

namespace Accounts.Input

/-! ## Requests -/

/-- Read a JSON object, or fail for another value. -/
def record (cause : Cause) (read : List (String × Json) → Checked α) : Json → Checked α
  | .obj members => read members
  | _ => .fail cause

/-- A registration. -/
def registration : Json → Checked Registration :=
  record (.notRecord "AccountCreate") fun m =>
    Checked.of (fun first last email password role about phone address city gender postcode birthday =>
        ⟨⟨first, last, email, role, about, phone, address, city, gender, postcode, birthday⟩,
          password⟩)
      |>.apply (optional text "first_name" m)
      |>.apply (optional text "last_name" m)
      |>.apply (optional text "email" m)
      |>.apply (optional text "password" m)
      |>.apply (optional text "role" m)
      |>.apply (optional text "about" m)
      |>.apply (optional text "phone_number" m)
      |>.apply (optional text "address" m)
      |>.apply (optional text "city" m)
      |>.apply (optional text "gender" m)
      |>.apply (optional integer "postcode" m)
      |>.apply (optional date "birthday" m)

/-- A revision of a profile. -/
def revision : Json → Checked Details :=
  record (.notRecord "AccountUpdate") fun m =>
    Checked.of Details.mk
      |>.apply (optional text "first_name" m)
      |>.apply (optional text "last_name" m)
      |>.apply (optional text "email" m)
      |>.apply (optional text "role" m)
      |>.apply (optional text "about" m)
      |>.apply (optional text "phone_number" m)
      |>.apply (optional text "address" m)
      |>.apply (optional text "city" m)
      |>.apply (optional text "gender" m)
      |>.apply (optional integer "postcode" m)
      |>.apply (optional date "birthday" m)

/-- Credentials. -/
def credentials : Json → Checked Credentials :=
  record (.notRecord "LoginRequest") fun m =>
    Checked.of Credentials.mk
      |>.apply (optional text "email" m)
      |>.apply (optional text "password" m)

/-! ## Accounts -/

/-- An account; names, role and password may be left out. -/
def account : Json → Checked Account :=
  record .notObject fun m =>
    Checked.of (fun id first last email password role about phone address city gender postcode birthday
          created updated login =>
        ⟨⟨id, first, last, email, role, about, phone, address, city, gender, postcode, birthday,
          created, updated, login⟩, password⟩)
      |>.apply (required uuid "id" m)
      |>.apply (withDefault "" wholeText "first_name" m)
      |>.apply (withDefault "" wholeText "last_name" m)
      |>.apply (required wholeText "email" m)
      |>.apply (optional wholeText "password" m)
      |>.apply (withDefault "user" wholeText "role" m)
      |>.apply (optional wholeText "about" m)
      |>.apply (optional wholeText "phone_number" m)
      |>.apply (optional wholeText "address" m)
      |>.apply (optional wholeText "city" m)
      |>.apply (optional wholeText "gender" m)
      |>.apply (optional integer "postcode" m)
      |>.apply (optional date "birthday" m)
      |>.apply (required dateTime "created_at" m)
      |>.apply (required dateTime "updated_at" m)
      |>.apply (required dateTime "login_date" m)

/-- A profile; every member has to be there. -/
def profile : Json → Checked Profile :=
  record .notObject fun m =>
    Checked.of Profile.mk
      |>.apply (required uuid "id" m)
      |>.apply (required wholeText "first_name" m)
      |>.apply (required wholeText "last_name" m)
      |>.apply (required wholeText "email" m)
      |>.apply (required wholeText "role" m)
      |>.apply (required (orNull wholeText) "about" m)
      |>.apply (required (orNull wholeText) "phone_number" m)
      |>.apply (required (orNull wholeText) "address" m)
      |>.apply (required (orNull wholeText) "city" m)
      |>.apply (required (orNull wholeText) "gender" m)
      |>.apply (required (orNull integer) "postcode" m)
      |>.apply (required (orNull date) "birthday" m)
      |>.apply (required dateTime "created_at" m)
      |>.apply (required dateTime "updated_at" m)
      |>.apply (required dateTime "login_date" m)

/-- A session. -/
def session : Json → Checked Session :=
  record (.notRecord "AccountWithToken") fun m =>
    Checked.of Session.mk |>.apply (required account "user" m) |>.apply (required wholeText "token" m)

/-- What callers see of a session. -/
def sessionView : Json → Checked SessionView :=
  record .notObject fun m =>
    Checked.of SessionView.mk |>.apply (required profile "user" m) |>.apply (required wholeText "token" m)

end Accounts.Input
