import Accounts.Account.Basic
import Accounts.Text.Blank
import Accounts.Text.Lower

/-!
# Normal form of account input

Texts lose the blanks at their ends, emails and roles are in lowercase, and a registration gets a
role and names when it has none.  A revision keeps what is blank, because blank means unchanged
there.
-/

namespace Accounts

open Text

/-- The role of an account that was registered without one. -/
def defaultRole : String := "user"

/-- Trimmed and in lowercase. -/
def foldText (s : String) : String := lower (strip s)

/-- The email under which an account is stored and looked up. -/
def normalEmail (email : Option LooseText) : LooseText := (email.getD "").map foldText

/-- The normal form of a revision. -/
def Details.normal (d : Details) : Details :=
  { d with
    firstName := d.firstName.map (·.map strip)
    lastName := d.lastName.map (·.map strip)
    email := d.email.map (·.map foldText)
    role := d.role.map (·.map foldText)
    about := d.about.map (·.map strip)
    phoneNumber := d.phoneNumber.map (·.map strip)
    address := d.address.map (·.map strip)
    city := d.city.map (·.map strip)
    gender := d.gender.map (·.map strip) }

/-- A text, or another one when it is empty. -/
def orElse (s other : String) : String := if s.isEmpty then other else s

/-- A text that may be broken, or another one when it is empty. -/
def LooseText.orElse (t : LooseText) (other : String) : LooseText :=
  if t.chars.isEmpty then other else t

/-- The normal form of a registration. -/
def Registration.normal (r : Registration) : Registration :=
  let d := r.details.normal
  { r with
    details :=
      { d with
        firstName := some (d.firstName.getD "")
        lastName := some (d.lastName.getD "")
        role := some ((d.role.getD "").orElse defaultRole) } }

end Accounts
