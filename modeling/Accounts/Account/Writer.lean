import Accounts.Account.Basic
import Accounts.Json.Basic

/-!
# Accounts and requests as JSON

Every field is written, in the order of the fields, with null for what is not there.
-/

namespace Accounts

open Calendar

/-- A date or null. -/
def Json.ofDate? (d : Option Date) : Json := .ofText? (d.map Date.text)

/-- An integer or null. -/
def Json.ofInt? : Option Int → Json
  | some n => .int n
  | none => .null

/-- A date and time as a string. -/
def Json.ofDateTime (t : DateTime) : Json := .str (t.text .letter)

/-- The members of a registration. -/
def Registration.json (r : Registration) : Json :=
  .obj [
    ("first_name", .ofLoose? r.details.firstName),
    ("last_name", .ofLoose? r.details.lastName),
    ("email", .ofLoose? r.details.email),
    ("password", .ofLoose? r.password),
    ("role", .ofLoose? r.details.role),
    ("about", .ofLoose? r.details.about),
    ("phone_number", .ofLoose? r.details.phoneNumber),
    ("address", .ofLoose? r.details.address),
    ("city", .ofLoose? r.details.city),
    ("gender", .ofLoose? r.details.gender),
    ("postcode", .ofInt? r.details.postcode),
    ("birthday", .ofDate? r.details.birthday)]

/-- The members of a revision. -/
def Details.json (d : Details) : Json :=
  .obj [
    ("first_name", .ofLoose? d.firstName),
    ("last_name", .ofLoose? d.lastName),
    ("email", .ofLoose? d.email),
    ("role", .ofLoose? d.role),
    ("about", .ofLoose? d.about),
    ("phone_number", .ofLoose? d.phoneNumber),
    ("address", .ofLoose? d.address),
    ("city", .ofLoose? d.city),
    ("gender", .ofLoose? d.gender),
    ("postcode", .ofInt? d.postcode),
    ("birthday", .ofDate? d.birthday)]

/-- The members of credentials. -/
def Credentials.json (c : Credentials) : Json :=
  .obj [("email", .ofLoose? c.email), ("password", .ofLoose? c.password)]

/-- The members of a profile, with others between the email and the role. -/
def Profile.members (p : Profile) (between : List (String × Json)) : List (String × Json) :=
  [("id", .str p.id.text),
    ("first_name", .str p.firstName),
    ("last_name", .str p.lastName),
    ("email", .str p.email)]
  ++ between ++
  [("role", .str p.role),
    ("about", .ofText? p.about),
    ("phone_number", .ofText? p.phoneNumber),
    ("address", .ofText? p.address),
    ("city", .ofText? p.city),
    ("gender", .ofText? p.gender),
    ("postcode", .ofInt? p.postcode),
    ("birthday", .ofDate? p.birthday),
    ("created_at", .ofDateTime p.createdAt),
    ("updated_at", .ofDateTime p.updatedAt),
    ("login_date", .ofDateTime p.loginDate)]

/-- A profile as JSON; it has no password. -/
def Profile.json (p : Profile) : Json := .obj (p.members [])

/-- An account as JSON. -/
def Account.json (a : Account) : Json :=
  .obj (a.toProfile.members [("password", .ofText? a.password)])

/-- A session as JSON. -/
def Session.json (s : Session) : Json :=
  .obj [("user", s.account.json), ("token", .str s.token)]

/-- What callers see of a session, as JSON. -/
def SessionView.json (s : SessionView) : Json :=
  .obj [("user", s.profile.json), ("token", .str s.token)]

end Accounts
