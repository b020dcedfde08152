import Accounts.Proofs.Account.Prepared
import Accounts.Proofs.Service.Requests
import Accounts.Proofs.World.Twin

/-!
# The service keeps passwords to itself

Operations that differ in their passwords end alike in twins: they fail with the same error or answer
the same, and leave the same keys, the same log and the same rows but for the hashes.  A login does so
when both passwords are accepted, or both are not.

    r and r' differ in valid passwords  ->  register config r and register config r' end alike
-/

namespace Accounts

open Accounts.Action

variable {α β : Type} {w w' : World} {id : Uuid}

/-! ## Input -/

/-- Passwords that are the same, or both as the rule for passwords wants them. -/
def PasswordsAlike (p q : Option LooseText) : Prop :=
  p = q ∨ checkPassword p = .ok none ∧ checkPassword q = .ok none

theorem PasswordsAlike.check {p q : Option LooseText} (h : PasswordsAlike p q) :
    checkPassword p = checkPassword q := by
  rcases h with rfl | ⟨hp, hq⟩
  · rfl
  · rw [hp, hq]

/-- Registrations that differ in their passwords. -/
structure Registration.Alike (r r' : Registration) : Prop where
  details : r.details = r'.details
  password : PasswordsAlike r.password r'.password

/-- Credentials that differ in their passwords. -/
structure Credentials.Alike (c c' : Credentials) : Prop where
  email : c.email = c'.email
  password : PasswordsAlike c.password c'.password

theorem Registration.Alike.normal {r r' : Registration} (h : r.Alike r') :
    r.normal.Alike r'.normal where
  details := by
    unfold Registration.normal
    rw [h.details]
  password := h.password

theorem Registration.Alike.violations {r r' : Registration} (h : r.Alike r') :
    r.violations = r'.violations := by
  unfold Registration.violations
  rw [h.details, h.password.check]

theorem Registration.Alike.prepare {r r' : Registration} (h : r.Alike r') :
    SameOutcome Registration.Alike r.prepare r'.prepare := by
  unfold Registration.prepare Accounts.prepare
  rw [h.normal.violations]
  split
  · exact h.normal
  · exact rfl
  · exact rfl

theorem Credentials.Alike.violations {c c' : Credentials} (h : c.Alike c') :
    c.violations = c'.violations := by
  unfold Credentials.violations
  rw [h.email, h.password.check]

/-! ## The store -/

/-- Accounts that are the same but for their hashes. -/
def Account.Alike (a b : Account) : Prop := a.sanitized = b.sanitized

namespace Store

/-- Rows with the same profile. -/
def Row.Alike (a b : Row) : Prop := a.profile = b.profile

/-- No rows, or rows with the same profile. -/
def Row.Alike? (a b : Option Row) : Prop := a.map Row.profile = b.map Row.profile

theorem endsAlike_create (h : w.Twin w') {r r' : Registration} (hr : r.Alike r')
    (hash hash' : String) :
    EndsAlike Account.Alike (create r hash) (create r' hash') w w' := by
  have hdraft : Draft.ofRegistration r' hash' = { Draft.ofRegistration r hash with hash := hash' } := by
    unfold Draft.ofRegistration
    rw [hr.details]
  have hinsert : EndsAlike (SameOutcome Row.Alike) (statement (.insert (.ofRegistration r hash)))
      (statement (.insert (.ofRegistration r' hash'))) w w' := by
    rw [hdraft]
    exact .statement (.insert _) (.insert _) h rfl (fun fault => rfl)
      fun _ new => (insert_alike h.profiles _ _ _ _).imp_left .of_map
  refine hinsert.bind fun x y v v' hxy hv => ?_
  rcases x with fault | row <;> rcases y with fault' | row'
  · obtain rfl : fault = fault' := hxy
    cases fault
    case conflict =>
      exact .bind (.of_asks (asks_log trivial) hv) fun _ _ v v' _ hv => .throw hv _
    all_goals exact .throw hv _
  · exact hxy.elim
  · exact hxy.elim
  · have hprofile : row.profile = row'.profile := hxy
    refine EndsAlike.bind (R := Eq) ?_ fun _ _ v v' _ hv => .pure hv ?_
    · rw [hprofile]
      exact .of_asks (asks_log trivial) hv
    · unfold Account.Alike Account.sanitized Row.secret
      rw [hprofile]

theorem endsAlike_update (h : w.Twin w') (id : Uuid) (d : Details) :
    EndsAlike Eq (update id d) (update id d) w w' := by
  have hrevise : EndsAlike (SameOutcome Row.Alike?) (statement (.revise id d))
      (statement (.revise id d)) w w' :=
    .statement (.revise id d) (.revise id d) h rfl (fun fault => rfl)
      fun _ new => (revise_alike h.profiles _ _ _).imp_left .of_map
  refine hrevise.bind fun x y v v' hxy hv => ?_
  rcases x with fault | _ | row <;> rcases y with fault' | _ | row' <;> try cases hxy
  · cases fault
    case conflict =>
      exact .bind (.of_asks (asks_log trivial) hv) fun _ _ v v' _ hv => .throw hv _
    all_goals exact .throw hv _
  · exact .throw hv _
  · have hprofile : row.profile = row'.profile := Option.some.inj hxy
    refine .bind (.of_asks (asks_log trivial) hv) fun _ _ v v' _ hv => .pure hv ?_
    unfold Row.account
    rw [hprofile]

theorem endsAlike_find (h : w.Twin w') (id : Uuid) : EndsAlike Eq (find id) (find id) w w' := by
  have hstatement : EndsAlike (SameOutcome Row.Alike?) (statement (.findById id))
      (statement (.findById id)) w w' :=
    .statement (.findById id) (.findById id) h rfl (fun fault => rfl)
      fun _ new => ⟨Table.find?_alike h.profiles id, h.profiles⟩
  refine (EndsAlike.query hstatement).bind fun x y v v' hxy hv => ?_
  rcases x with _ | row <;> rcases y with _ | row' <;> try cases hxy
  · exact .throw hv _
  · have hprofile : row.profile = row'.profile := Option.some.inj hxy
    refine .pure hv ?_
    unfold Row.account
    rw [hprofile]

/-- Looking an email up gives the rows of both tables, when it meets no fault. -/
theorem endsAlike_findByEmail (h : w.Twin w') (email : LooseText) :
    EndsAlike (fun x y => w.faults.sql.head?.join = none ∧
        x = (w.table.findEmail? email.chars).map Row.secret ∧
        y = (w'.table.findEmail? email.chars).map Row.secret)
      (findByEmail email) (findByEmail email) w w' := by
  have hlook (hfault : w.faults.sql.head?.join = none) : SameOutcome (fun x y : Option Row =>
      w.faults.sql.head?.join = none ∧ x = w.table.findEmail? email.chars ∧
        y = w'.table.findEmail? email.chars) (lookUp email w.table) (lookUp email w'.table) := by
    unfold lookUp LooseText.whole
    cases email.isWhole with
    | true => exact ⟨hfault, rfl, rfl⟩
    | false => exact rfl
  have hstatement : EndsAlike (SameOutcome fun x y : Option Row =>
        w.faults.sql.head?.join = none ∧ x = w.table.findEmail? email.chars ∧
          y = w'.table.findEmail? email.chars)
      (statement (.findByEmail email)) (statement (.findByEmail email)) w w' :=
    .statement (.findByEmail email) (.findByEmail email) h rfl (fun fault => rfl)
      fun hfault new => ⟨hlook hfault, h.profiles⟩
  refine (EndsAlike.query hstatement).bind fun x y v v' hxy hv => ?_
  obtain ⟨hfault, rfl, rfl⟩ := hxy
  exact .pure hv ⟨hfault, rfl, rfl⟩

theorem endsAlike_delete (h : w.Twin w') (id : Uuid) :
    EndsAlike Eq (delete id) (delete id) w w' :=
  .of_asks (Action.Asks.mono (World.plain_of_within fun s hs => by rw [hs]; trivial)
    (asks_delete (C := fun _ => True) id)) h

end Store

/-! ## Parts of operations -/

/-- What verifying the password of credentials finds, if a login with them gets to it. -/
def World.verdict? (w : World) (c : Credentials) : Option Password.Verdict :=
  if (prepare () c.violations).isOk ∧ w.faults.sql.head?.join = none then
    (w.table.findEmail? (normalEmail c.email).chars).map fun row =>
      Password.verifyLoose (some row.hash) (c.password.getD "")
  else none

namespace Identity

variable {R : α → β → Prop}

theorem endsAlike_operation {a : Action α} {b : Action β} (name : String)
    (h : EndsAlike R a b w w') : EndsAlike R (operation name a) (operation name b) w w' := by
  refine h.handled fun e v v' hv => ?_
  split
  · exact .throw hv _
  · split
    · exact .bind (.of_asks (asks_log trivial) hv) fun _ _ v v' _ hv => .throw hv _
    · exact .throw hv _
  · exact .throw hv _

theorem endsAlike_accept (h : w.Twin w') {x : Except InputFault α} {y : Except InputFault β}
    (hxy : SameOutcome R x y) : EndsAlike R (accept x) (accept y) w w' := by
  rcases x with fault | a <;> rcases y with fault' | b
  · obtain rfl : fault = fault' := hxy
    cases fault <;> exact .throw h _
  · exact hxy.elim
  · exact hxy.elim
  · exact .pure h hxy

/-- Hashing gives some hash for both passwords, or fails for both. -/
theorem endsAlike_hashPassword (h : w.Twin w') {p q : Option LooseText} (hpq : PasswordsAlike p q) :
    EndsAlike (fun _ _ => True) (hashPassword (p.getD "")) (hashPassword (q.getD "")) w w' := by
  have hsome : ∀ salt, (Password.hashLoose? salt (p.getD "")).isSome =
      (Password.hashLoose? salt (q.getD "")).isSome := by
    intro salt
    rcases hpq with rfl | ⟨hp, hq⟩
    · rfl
    · rw [isSome_hashLoose? salt hp, isSome_hashLoose? salt hq]
  refine EndsAlike.bind (R := Eq) (.of_asks (asks_request trivial) h) fun salt _ v v' heq hv => ?_
  subst heq
  have hsalt := hsome salt
  rcases hp : Password.hashLoose? salt (p.getD "") with _ | hash <;>
    rcases hq : Password.hashLoose? salt (q.getD "") with _ | hash' <;> rw [hp, hq] at hsalt
  · exact .throw hv _
  · cases hsalt
  · cases hsalt
  · exact .pure hv trivial

theorem endsAlike_refuseTaken (h : w.Twin w') (name : String) (email : LooseText) :
    EndsAlike Eq (refuseTaken name email) (refuseTaken name email) w w' := by
  have hlook : EndsAlike (fun x y : Option Account => x.isSome = y.isSome) (lookAhead name email)
      (lookAhead name email) w w' := by
    refine EndsAlike.handled ((Store.endsAlike_findByEmail h email).mono ?_) fun e v v' hv => ?_
    · rintro x y ⟨-, rfl, rfl⟩
      have hfound := congrArg Option.isSome (Store.Table.findEmail?_alike h.profiles email.chars)
      simpa using hfound
    · split
      · split
        · exact .bind (.of_asks (asks_log trivial) hv) fun _ _ v v' _ hv => .pure hv rfl
        · exact .throw hv _
      · exact .throw hv _
  unfold refuseTaken
  split
  · exact .pure h rfl
  · refine hlook.bind fun x y v v' hxy hv => ?_
    rw [hxy]
    split
    · exact .throw hv _
    · exact .pure hv rfl

/-! ## Operations -/

theorem endsAlike_register (h : w.Twin w') (config : Config) {r r' : Registration}
    (hr : r.Alike r') : EndsAlike Eq (register config r) (register config r') w w' := by
  have hlast : ∀ (session : Session) (v v' : World), v.Twin v' → EndsAlike Eq
      (do log (.accountRegistered session.account.id); return session : Action Session)
      (do log (.accountRegistered session.account.id); return session : Action Session) v v' :=
    fun session v v' hv => .of_no_statement (C := fun _ => False)
      ((asks_log trivial).bind fun _ => asks_pure _) hv
  rw [register_eq, register_eq]
  refine EndsAlike.bind (R := Eq) (endsAlike_operation _ ?_)
    fun session _ v v' heq hv => heq ▸ hlast session v v' hv
  rw [← hr.details]
  refine (endsAlike_refuseTaken h _ _).bind fun _ _ v v' _ hv => ?_
  refine (endsAlike_accept hv hr.prepare).bind fun p p' v v' hp hv => ?_
  refine (endsAlike_hashPassword hv hp.password).bind fun hash hash' v v' _ hv => ?_
  refine (Store.endsAlike_create hv hp hash hash').bind fun a a' v v' ha hv => ?_
  rw [show a'.sanitized = a.sanitized from ha.symm]
  exact .of_no_statement (C := fun _ => False)
    ((asks_issueToken _ _ _).bind fun _ => asks_pure _) hv

theorem endsAlike_update (h : w.Twin w') (id : Uuid) (d : Details) :
    EndsAlike Eq (update id d) (update id d) w w' := by
  rw [update_eq]
  refine EndsAlike.bind (R := Eq) (endsAlike_operation _ ?_) fun account _ v v' heq hv => ?_
  · refine (endsAlike_accept (R := Eq) h ?_).bind fun p _ v v' heq hv => ?_
    · rcases d.prepare with _ | p <;> exact rfl
    · subst heq
      exact (Store.endsAlike_update hv id p).bind fun a _ v v' heq hv => heq ▸ .pure hv rfl
  · subst heq
    exact .of_no_statement ((asks_invalidate _ id).bind fun _ => asks_pure _) hv

theorem endsAlike_delete (h : w.Twin w') (id : Uuid) :
    EndsAlike Eq (delete id) (delete id) w w' := by
  rw [delete_eq]
  refine EndsAlike.bind (endsAlike_operation _ (Store.endsAlike_delete h id))
    fun _ _ v v' _ hv => ?_
  exact .of_no_statement ((asks_invalidate _ id).bind fun _ => asks_log trivial) hv

theorem endsAlike_find (h : w.Twin w') (config : Config) (id : Uuid) :
    EndsAlike Eq (find config id) (find config id) w w' := by
  refine EndsAlike.bind (.of_no_statement (Cache.asks_find id) h) fun cached _ v v' heq hv => ?_
  subst heq
  split
  · exact .pure hv rfl
  · refine (endsAlike_operation _ (Store.endsAlike_find hv id)).bind fun account _ v v' heq hv => ?_
    subst heq
    refine EndsAlike.bind (.of_no_statement (Cache.asks_store _ _) hv) fun stored _ v v' heq hv => ?_
    subst heq
    refine .of_no_statement (C := fun _ => False) ?_ hv
    dsimp only
    split
    · exact (asks_log trivial).bind fun _ => asks_pure _
    · exact asks_pure _

/-- A check of passwords with the same verdict. -/
theorem endsAlike_checkPassword (h : w.Twin w') {a a' : Account} {p p' : LooseText}
    (hverdict : Password.verifyLoose a.password p = Password.verifyLoose a'.password p') :
    EndsAlike Eq (checkPassword a p) (checkPassword a' p') w w' := by
  unfold checkPassword
  rw [hverdict]
  refine .of_no_statement (C := fun _ => False) ?_ h
  split
  · exact asks_pure _
  · exact asks_fail _
  · exact (asks_log trivial).bind fun _ => asks_fail _

theorem endsAlike_login (h : w.Twin w') (config : Config) {c c' : Credentials} (hc : c.Alike c')
    (hverdict : w.verdict? c = w'.verdict? c') :
    EndsAlike Eq (login config c) (login config c') w w' := by
  rw [login_eq, login_eq]
  refine EndsAlike.bind (R := Eq) (endsAlike_operation _ ?_) fun session _ v v' heq hv => ?_
  · unfold World.verdict? at hverdict
    unfold decided
    rw [← hc.violations, ← hc.email, ← h.faults] at hverdict
    rw [← hc.violations, ← hc.email]
    cases hvalid : prepare () c.violations with
    | error fault =>
      cases fault <;> exact .throw h _
    | ok u =>
      rw [hvalid] at hverdict
      rw [accept_ok, pure_bind, pure_bind]
      refine (Store.endsAlike_findByEmail h _).bind fun x y v v' hxy hv => ?_
      obtain ⟨hfault, rfl, rfl⟩ := hxy
      rw [if_pos ⟨rfl, hfault⟩, if_pos ⟨rfl, hfault⟩] at hverdict
      have hfound := Store.Table.findEmail?_alike h.profiles (normalEmail c.email).chars
      rcases hrow : w.table.findEmail? (normalEmail c.email).chars with _ | row <;>
        rcases hrow' : w'.table.findEmail? (normalEmail c.email).chars with _ | row' <;>
        rw [hrow, hrow'] at hfound hverdict
      · exact .throw hv _
      · cases hfound
      · cases hfound
      · have hprofile : row.profile = row'.profile := Option.some.inj hfound
        have hsame : row.secret.sanitized = row'.secret.sanitized := by
          unfold Account.sanitized Store.Row.secret
          rw [hprofile]
        have hsecret : Password.verifyLoose row.secret.password (c.password.getD "") =
            Password.verifyLoose row'.secret.password (c'.password.getD "") := Option.some.inj hverdict
        refine (endsAlike_checkPassword hv hsecret).bind fun _ _ v v' _ hv => ?_
        rw [hsame]
        exact .of_no_statement (C := fun _ => False)
          ((asks_issueToken _ _ _).bind fun _ => asks_pure _) hv
  · subst heq
    exact .of_no_statement (C := fun _ => False) ((asks_log trivial).bind fun _ => asks_pure _) hv

end Identity

end Accounts
