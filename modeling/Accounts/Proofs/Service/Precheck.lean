import Accounts.Proofs.Service.Login
import Accounts.Proofs.Service.Rows
import Accounts.Proofs.Service.Secrecy
import Accounts.Proofs.World.Settled

/-!
# The look-up before a registration is a shortcut

A registration looks its email up before it inserts a row, and goes on when the database reports a
fault.  Nothing depends on the look-up, since the index on emails refuses what it would have found:

    look-up fails               ->  the registration runs without it
    look-up finds no row        ->  the registration runs without it
    look-up finds a row         ->  email taken, and without it: conflict, so email taken

Only for a broken text does it matter: no row takes one, but a look-up that finds its email taken comes
before that.
-/

namespace Accounts

open Accounts.Action
open Accounts.Request (Within)

variable {α β : Type} {w w' : World} {fault : Store.Fault}

namespace Identity

variable {config : Config} {r prepared : Registration} {email : LooseText}

/-! ## Registrations without a look-up -/

/-- The part of a registration after its look-up. -/
def inserted (config : Config) (r : Registration) : Action Session := do
  let prepared ← accept r.prepare
  let hash ← hashPassword (prepared.password.getD "")
  let account ← Store.create prepared hash
  let token ← issueToken config "identity.register" account.sanitized
  return Session.mk account.sanitized token

/-- A registration that looks nothing up. -/
def unchecked (config : Config) (r : Registration) : Action Session := do
  let session ← operation "identity.register" (inserted config r)
  log (.accountRegistered session.account.id)
  return session

theorem operation_bind_ok {a : Action α} {f : α → Action β} {x : α} (name : String)
    (h : a.run w = (.ok x, w')) :
    (operation name (a >>= f)).run w = (operation name (f x)).run w' := by
  unfold operation
  rw [run_tryCatch, run_tryCatch, run_bind_ok f h]

/-- Once its look-up is passed, a registration goes on without it. -/
theorem register_of_passed
    (h : (refuseTaken "identity.register" (normalEmail r.details.email)).run w = (.ok (), w')) :
    (register config r).run w = (unchecked config r).run w' := by
  have henrolled : (enrolled config r).run w =
      (operation "identity.register" (inserted config r)).run w' :=
    operation_bind_ok "identity.register" h
  rw [register_eq, unchecked, run_bind, run_bind, henrolled]

theorem asks_unchecked (config : Config) (r : Registration) :
    (unchecked config r).Asks (Within (fun _ => True) fun _ => False) := by
  refine Asks.bind (asks_operation ?_) fun session => (asks_log trivial).bind fun _ => asks_pure _
  refine (asks_accept _).bind fun prepared => ?_
  refine (asks_hashPassword _).bind fun hash => ?_
  refine Asks.bind ((Store.asks_create prepared hash).mono
    (Within.mono (fun _ _ => trivial) fun _ h => h)) fun account => ?_
  exact (asks_issueToken _ _ _).bind fun _ => asks_pure _

/-! ## Look-ups -/

/-- A look-up that meets a fault that is reported is passed, and nothing of the world is changed. -/
theorem refuseTaken_of_fault (name : String) (hfault : w.faults.sql = [some fault])
    (hreported : fault.isReported = true) (hne : email.chars ≠ "") :
    ∃ faults events, (refuseTaken name email).run w =
      (.ok (), { w with faults := faults, events := events }) ∧ faults.sql = [] := by
  have hhead : w.faults.sql.head?.join = some fault := by
    rw [hfault]
    rfl
  have hquery : Action.run (query (.findByEmail email)) w =
      (.error (.store fault), w.tried (.findByEmail email)) := by
    rw [run_query, World.runStatement_of_fault hhead]
  have hfind : (Store.findByEmail email).run w =
      (.error (.store fault), w.tried (.findByEmail email)) := run_bind_error _ hquery
  have hlook : ∃ faults events, (lookAhead name email).run w =
      (.ok none, { w with faults := faults, events := events }) ∧ faults.sql = [] := by
    unfold lookAhead
    rw [run_tryCatch, hfind]
    dsimp only
    rw [if_pos hreported]
    exact ⟨_, _, rfl, congrArg (List.drop 1) hfault⟩
  obtain ⟨faults, events, h, hnone⟩ := hlook
  refine ⟨faults, events, ?_, hnone⟩
  unfold refuseTaken
  rw [if_neg (by simpa using hne), run_bind_ok _ h]
  rfl

/-- A look-up that finds a row is refused. -/
theorem refuseTaken_of_taken (hs : w.Sound) (name : String) {row : Store.Row}
    (htaken : Store.lookUp email w.table = .ok (some row)) (hne : email.chars ≠ "") :
    ((refuseTaken name email).run w).1 = .error (.failure { cause := .emailTaken }) := by
  have hfind := findByEmail_run hs htaken
  have hlook : (lookAhead name email).run w =
      (.ok (some row.secret), w.tried (.findByEmail email)) := by
    unfold lookAhead
    rw [run_tryCatch, hfind]
    rfl
  unfold refuseTaken
  rw [if_neg (by simpa using hne), run_bind_ok _ hlook]
  rfl

theorem operation_run_failure {a : Action α} {f : Failure} (name : String)
    (h : a.run w = (.error (.failure f), w')) :
    (operation name a).run w = (.error (.failure (f.tag name)), w') := by
  unfold operation
  rw [run_tryCatch, h]
  rfl

/-- An insertion that is refused has been tried, and leaves the table as it was. -/
theorem insert_of_refused (hs : w.Sound) (draft : Store.Draft)
    (h : ∀ id, Store.insert w.now id draft w.table = (.error fault, w.table)) :
    (statement (.insert draft)).run w = (.ok (.error fault), w.tried (.insert draft)) := by
  have hinsert : (Store.Statement.insert draft).run w.now (w.newId (.insert draft)) w.table =
      (.error fault, w.table) := h _
  rw [run_statement, World.runStatement_of_no_fault hs.no_fault, hinsert]
  rfl

/-- The index refuses a row whose email is taken; the insertion has been tried. -/
theorem create_of_taken (hs : w.Sound) (hash : String) {email : String} {row : Store.Row}
    (hfits : Store.bindFault? r.details.isWhole r.details.postcode = none)
    (hemail : charsOf r.details.email = some email)
    (htaken : w.table.findEmail? email = some row) :
    ∃ faults events, (Store.create r hash).run w = (.error (.failure { cause := .emailTaken }),
      { w with insertions := w.insertions + 1, faults := faults, events := events }) := by
  have hinsert := insert_of_refused hs (.ofRegistration r hash) fun id =>
    Store.insert_of_taken hfits hemail htaken
  unfold Store.create
  rw [run_bind_ok _ hinsert]
  exact ⟨_, _, rfl⟩

/-- A row of a broken text is refused as it is handed over; the insertion has been tried. -/
theorem create_of_brokenText (hs : w.Sound) (hash : String) (hbroken : r.details.isWhole = false) :
    ∃ faults events, (Store.create r hash).run w = (.error (.store (.encoding .surrogate)),
      { w with insertions := w.insertions + 1, faults := faults, events := events }) := by
  have hinsert := insert_of_refused hs (.ofRegistration r hash) fun id =>
    Store.insert_of_fault (Store.bindFault?_of_broken hbroken _)
  unfold Store.create
  rw [run_bind_ok _ hinsert]
  exact ⟨_, _, rfl⟩

/-- A valid registration that looks nothing up comes to its insertion. -/
theorem inserted_of_valid (config : Config) (hprepared : r.prepare = .ok prepared)
    (hsalt : (Password.Settings.ofText? w.salt).isSome) : ∃ hash,
    ∀ e w', (Store.create prepared hash).run w = (.error e, w') →
      (inserted config r).run w = (.error e, w') := by
  obtain ⟨hpassword, -, hcheck⟩ := Registration.prepare_eq_ok hprepared
  rw [← hpassword] at hcheck
  rw [← isSome_hashLoose? w.salt hcheck] at hsalt
  obtain ⟨hash, hhash⟩ := Option.isSome_iff_exists.1 hsalt
  have hhashed := hashPassword_run (prepared.password.getD "") w
  rw [hhash] at hhashed
  refine ⟨hash, fun e w' hcreate => ?_⟩
  unfold inserted
  rw [hprepared, accept_ok, pure_bind, run_bind_ok _ hhashed]
  exact run_bind_error _ hcreate

/-- Where the email is taken, the index refuses the row of a registration that looks nothing up. -/
theorem unchecked_of_taken (config : Config) (hs : w.Sound) {row : Store.Row}
    (hprepared : r.prepare = .ok prepared)
    (hfits : Store.bindFault? prepared.details.isWhole prepared.details.postcode = none)
    (hsalt : (Password.Settings.ofText? w.salt).isSome)
    (htaken : w.table.findEmail? (normalEmail r.details.email).chars = some row) :
    ∃ faults events, (unchecked config r).run w =
      (.error (.failure { cause := .emailTaken, operation := some "identity.register" }),
        { w with insertions := w.insertions + 1, faults := faults, events := events }) := by
  have hemail : charsOf prepared.details.email = some (normalEmail r.details.email).chars :=
    congrArg charsOf (Registration.prepared_email hprepared)
  obtain ⟨hash, hinserted⟩ := inserted_of_valid config hprepared hsalt
  obtain ⟨faults, events, hcreate⟩ := create_of_taken hs hash hfits hemail htaken
  refine ⟨faults, events, run_bind_error _ ?_⟩
  exact operation_run_failure "identity.register" (f := { cause := .emailTaken })
    (hinserted _ _ hcreate)

/-- A registration of a broken text that looks nothing up fails past its tag. -/
theorem unchecked_of_brokenText (config : Config) (hs : w.Sound)
    (hprepared : r.prepare = .ok prepared) (hbroken : prepared.details.isWhole = false)
    (hsalt : (Password.Settings.ofText? w.salt).isSome) :
    ((unchecked config r).run w).1 = .error (.store (.encoding .surrogate)) := by
  obtain ⟨hash, hinserted⟩ := inserted_of_valid config hprepared hsalt
  obtain ⟨faults, events, hcreate⟩ := create_of_brokenText hs hash hbroken
  unfold unchecked operation
  rw [run_bind, run_tryCatch, hinserted _ _ hcreate]
  rfl

/-- A registration whose email is taken fails at its look-up, and leaves the world as it was. -/
theorem register_of_taken (config : Config) (hs : w.Sound) {row : Store.Row}
    (htaken : Store.lookUp (normalEmail r.details.email) w.table = .ok (some row))
    (hne : (normalEmail r.details.email).chars ≠ "") :
    ((register config r).run w).1 =
        .error (.failure { cause := .emailTaken, operation := some "identity.register" }) ∧
      ((register config r).run w).2.settled = w.settled := by
  have hlook := (asks_look "identity.register" (normalEmail r.details.email)).run_settled w
  rcases hrun : (refuseTaken "identity.register" (normalEmail r.details.email)).run w with
    ⟨answer, w₁⟩
  have hrefused := refuseTaken_of_taken hs "identity.register" htaken hne
  rw [hrun] at hlook hrefused
  dsimp only at hrefused
  subst hrefused
  have henrolled : (enrolled config r).run w =
      (.error (.failure { cause := .emailTaken, operation := some "identity.register" }), w₁) :=
    operation_run_failure "identity.register" (run_bind_error _ hrun)
  rw [register_eq, run_bind_error _ henrolled]
  exact ⟨rfl, hlook⟩

end Identity

/-! ## The shortcut -/

section Shortcut

variable {r prepared : Registration}

/-- A registration whose look-up is passed, with the world the same, does what one without a look-up
does where all is well. -/
theorem record_of_passed (setup : Setup) {faults : Faults}
    (hpassed : (Identity.refuseTaken "identity.register" (normalEmail r.details.email)).run
      (w.facing faults) = (.ok (), w'))
    (hmatches : (w.facing {}).Matches w') :
    let y := Move.record setup ⟨.register r, faults⟩ w
    let u := (Identity.unchecked setup.identity r).run (w.facing {})
    y.answer = u.1.map .session ∧ y.after = u.2.settled := by
  obtain ⟨hanswer, hafter⟩ := (Identity.asks_unchecked setup.identity r).run_matches hmatches
  dsimp only
  rw [Move.record_answer, Move.record_after, Step.run_register, Identity.register_of_passed hpassed,
    ← hanswer]
  exact ⟨rfl, hafter.settled⟩

/-- A look-up that meets a fault that is reported is passed. -/
theorem record_of_failed_lookup (setup : Setup) (w : World)
    (hne : (normalEmail r.details.email).chars ≠ "") (hreported : fault.isReported = true) :
    let y := Move.record setup ⟨.register r, { sql := [some fault] }⟩ w
    let u := (Identity.unchecked setup.identity r).run (w.facing {})
    y.answer = u.1.map .session ∧ y.after = u.2.settled := by
  obtain ⟨faults, events, hpassed, hnone⟩ := Identity.refuseTaken_of_fault
    (w := w.facing { sql := [some fault] }) "identity.register" rfl hreported hne
  have hmatches : (w.facing {}).Matches
      { w.facing { sql := [some fault] } with faults := faults, events := events } := by
    refine ⟨rfl, w.sound_of_no_faults, fun fault' h => ?_⟩
    rw [show _ = [] from hnone] at h
    cases h
  exact record_of_passed setup hpassed hmatches

/-- A look-up that finds no row is passed. -/
theorem record_of_free (setup : Setup) (w : World)
    (hfree : Store.lookUp (normalEmail r.details.email) w.table = .ok none) :
    let x := Move.record setup ⟨.register r, {}⟩ w
    let u := (Identity.unchecked setup.identity r).run (w.facing {})
    x.answer = u.1.map .session ∧ x.after = u.2.settled := by
  have hmatches := (Identity.asks_look "identity.register" (normalEmail r.details.email)).matches_run
    w.sound_of_no_faults
  obtain ⟨w₁, hpassed, -⟩ := Identity.refuseTaken_run w.sound_of_no_faults "identity.register" hfree
  rw [hpassed] at hmatches
  exact record_of_passed setup hpassed hmatches

/-- A look-up that finds a row ends the registration, and leaves the world as it was. -/
theorem record_of_taken (setup : Setup) (w : World) {row : Store.Row}
    (htaken : Store.lookUp (normalEmail r.details.email) w.table = .ok (some row))
    (hne : (normalEmail r.details.email).chars ≠ "") :
    let x := Move.record setup ⟨.register r, {}⟩ w
    x.answer = .error (.failure { cause := .emailTaken, operation := some "identity.register" }) ∧
      x.after = (w.facing {}).settled := by
  obtain ⟨hrefused, hsame⟩ :=
    Identity.register_of_taken setup.identity w.sound_of_no_faults htaken hne
  dsimp only
  rw [Move.record_answer, Move.record_after, Step.run_register]
  dsimp only
  rw [hrefused, hsame]
  exact ⟨rfl, rfl⟩

/-- The email of a valid registration is looked up among the rows. -/
theorem lookUp_of_prepared (hprepared : r.prepare = .ok prepared) (t : Store.Table) :
    Store.lookUp (normalEmail r.details.email) t =
      .ok (t.findEmail? (normalEmail r.details.email).chars) := by
  rw [Store.lookUp_eq_ok_iff]
  refine ⟨?_, rfl⟩
  rw [Registration.normalEmail_eq hprepared]

/-- **The look-up before a registration is a shortcut.**  Let a registration break no rule, its
postcode fit the table, and the salt be one that passwords are hashed with; and let its texts be whole,
unless its email is free.  When its look-up meets a fault that the database reports, and all else
works, it answers just what it answers without faults, session or failure, and leaves the same table.
The worlds after it are the same altogether, but for the number of insertions that were tried. -/
theorem lookup_is_a_shortcut (setup : Setup) (w : World) (hprepared : r.prepare = .ok prepared)
    (hfits : Store.fitsColumn prepared.details.postcode = true)
    (hwhole : ∀ row, w.table.findEmail? (normalEmail r.details.email).chars = some row →
      prepared.details.isWhole = true)
    (hsalt : (Password.Settings.ofText? w.salt).isSome) (hreported : fault.isReported = true) :
    let x := Move.record setup ⟨.register r, {}⟩ w
    let y := Move.record setup ⟨.register r, { sql := [some fault] }⟩ w
    y.answer = x.answer ∧ y.after.table = x.after.table ∧
      y.after = { x.after with insertions := y.after.insertions } := by
  obtain ⟨hne, -⟩ := checkEmail_eq_none (Registration.prepare_eq_ok hprepared).2.1
  obtain ⟨hanswer, hafter⟩ := record_of_failed_lookup setup w hne hreported
  have hlookup := lookUp_of_prepared hprepared w.table
  dsimp only
  rw [hanswer, hafter]
  cases hrow : w.table.findEmail? (normalEmail r.details.email).chars with
  | none =>
    rw [hrow] at hlookup
    obtain ⟨hanswer', hafter'⟩ := record_of_free setup w hlookup
    rw [hanswer', hafter']
    rcases (Identity.unchecked setup.identity r).run (w.facing {}) with ⟨answer, w'⟩
    exact ⟨rfl, rfl, rfl⟩
  | some row =>
    rw [hrow] at hlookup
    -- without the look-up the row is made, and the index refuses it
    obtain ⟨faults, events, hunchecked⟩ := Identity.unchecked_of_taken setup.identity
      w.sound_of_no_faults hprepared (Store.bindFault?_eq_none_iff.2 ⟨hwhole row hrow, hfits⟩) hsalt
      hrow
    obtain ⟨hrefused, hsame⟩ := record_of_taken setup w hlookup hne
    rw [hunchecked, hrefused, hsame]
    exact ⟨rfl, rfl, rfl⟩

end Shortcut

/-- With the look-up failing, the sample registration answers what it answers without faults. -/
theorem lookup_is_a_shortcut_sample :
    let x := Move.record .sample ⟨.register sampleRegistration, {}⟩ (World.fresh 0 sampleSalt)
    let y := Move.record .sample ⟨.register sampleRegistration, { sql := [some .unavailable] }⟩
      (World.fresh 0 sampleSalt)
    sampleRegistration.prepare = .ok sampleRegistration.normal ∧
      Store.fitsColumn sampleRegistration.normal.details.postcode = true ∧
      sampleRegistration.normal.details.isWhole = true ∧
      (Password.Settings.ofText? (World.fresh 0 sampleSalt).salt).isSome ∧
      Store.Fault.unavailable.isReported = true ∧
      y.answer = x.answer ∧ y.after.table = x.after.table ∧
      y.after = { x.after with insertions := y.after.insertions } := by
  have hwhole : sampleRegistration.normal.details.isWhole = true := by decide +kernel
  have hsalt : (Password.Settings.ofText? (World.fresh 0 sampleSalt).salt).isSome := by
    decide +kernel
  have hreported : Store.Fault.unavailable.isReported = true := rfl
  exact ⟨sample_prepare, rfl, hwhole, hsalt, hreported,
    lookup_is_a_shortcut .sample (World.fresh 0 sampleSalt) sample_prepare rfl (fun _ _ => hwhole)
      hsalt hreported⟩

/-- Where its email is taken, a registration with a broken name is refused by its look-up, and fails
past every tag when the look-up meets a fault. -/
theorem lookup_hides_broken_names :
    let x := Move.record .sample ⟨.register brokenRegistration, {}⟩ (sampleWorld .sample)
    let y := Move.record .sample ⟨.register brokenRegistration, { sql := [some .unavailable] }⟩
      (sampleWorld .sample)
    brokenRegistration.prepare = .ok brokenRegistration.normal ∧
      Store.fitsColumn brokenRegistration.normal.details.postcode = true ∧
      (Password.Settings.ofText? (sampleWorld .sample).salt).isSome ∧
      Store.Fault.unavailable.isReported = true ∧
      x.answer = .error (.failure { cause := .emailTaken, operation := some "identity.register" }) ∧
      y.answer = .error (.store (.encoding .surrogate)) := by
  have hbroken : brokenRegistration.normal.details.isWhole = false := by decide +kernel
  have hsalt : (Password.Settings.ofText? (sampleWorld .sample).salt).isSome := by
    rw [sampleWorld_salt]
    decide +kernel
  obtain ⟨row, hrow⟩ := sampleWorld_findEmail? .sample
  obtain ⟨hne, -⟩ := checkEmail_eq_none (Registration.prepare_eq_ok broken_prepare).2.1
  have htaken := lookUp_of_prepared broken_prepare (sampleWorld .sample).table
  rw [show (sampleWorld .sample).table.findEmail?
    (normalEmail brokenRegistration.details.email).chars = some row from hrow] at htaken
  refine ⟨broken_prepare, rfl, hsalt, rfl, ?_, ?_⟩
  · exact (record_of_taken .sample (sampleWorld .sample) htaken hne).1
  · have hfails := Identity.unchecked_of_brokenText (w := (sampleWorld .sample).facing {})
      Setup.sample.identity (World.sound_of_no_faults _) broken_prepare hbroken hsalt
    rw [(record_of_failed_lookup .sample (sampleWorld .sample) hne rfl).1, hfails]
    rfl

end Accounts
