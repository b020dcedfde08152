import Accounts.Proofs.Service.Returns
import Accounts.Proofs.World.Alike

/-!
# What the operations of the service do to the table

A registration adds one row, a revision replaces one and a deletion takes one away; an operation that
fails leaves the table as it was, but for a registration whose token cannot be issued.

    update fails  ->  same table
    update is ok  ->  t.replace id (row.revised d' time), and answers its account
-/

namespace Accounts.Identity

open Accounts.Action
open Accounts.Request (Within)

variable {α β : Type} {w w' : World} {id : Uuid} {C : Cache.Command → Prop}

/-! ## Parts of operations -/

theorem operation_run_ok {a : Action α} {x : α} (name : String) (h : a.run w = (.ok x, w')) :
    (operation name a).run w = (.ok x, w') := by
  unfold operation
  rw [run_tryCatch, h]

/-- An operation that fails has logged something, if it changed anything more. -/
theorem operation_run_error {a : Action α} {e : Error} (name : String)
    (h : a.run w = (.error e, w')) : ∃ e' events,
      (operation name a).run w = (.error e', { w' with events := events }) := by
  unfold operation
  rw [run_tryCatch, h]
  dsimp only
  split
  · exact ⟨_, _, rfl⟩
  · split
    · exact ⟨_, _, rfl⟩
    · exact ⟨_, _, rfl⟩
  · exact ⟨_, _, rfl⟩

theorem operation_run_eq_ok {a : Action α} {name : String} {x : α}
    (h : (operation name a).run w = (.ok x, w')) : a.run w = (.ok x, w') := by
  rcases hrun : a.run w with ⟨e | y, w₁⟩
  · obtain ⟨e', events, herror⟩ := operation_run_error name hrun
    rw [h] at herror
    cases herror
  · rw [operation_run_ok name hrun] at h
    exact h

/-- What only reads the table afterwards leaves the table of the part before it. -/
theorem run_bind_table (a : Action α) {f : α → Action β}
    (hf : ∀ x, (f x).Asks (Within Store.Reads C)) (w : World) :
    ((a >>= f).run w).2.table = (a.run w).2.table := by
  rw [run_bind]
  rcases a.run w with ⟨x | x, w'⟩
  · rfl
  · exact (hf x).table_of_reads w'

theorem operation_table (name : String) (a : Action α) (w : World) :
    ((operation name a).run w).2.table = (a.run w).2.table := by
  rcases h : a.run w with ⟨e | x, w'⟩
  · obtain ⟨e', events, h'⟩ := operation_run_error name h
    rw [h']
  · rw [operation_run_ok name h]

/-- The error for input that is not accepted. -/
def inputError : InputFault → Error
  | .invalid violations => .failure { cause := .invalidInput violations }
  | .encoding fault => .encoding fault

theorem accept_run (prepared : Except InputFault α) (w : World) :
    (∃ fault, prepared = .error fault ∧ (accept prepared).run w = (.error (inputError fault), w)) ∨
    ∃ x, prepared = .ok x ∧ (accept prepared).run w = (.ok x, w) := by
  cases prepared with
  | error fault =>
    refine .inl ⟨fault, rfl, ?_⟩
    cases fault <;> rfl
  | ok x => exact .inr ⟨x, rfl, rfl⟩

/-! ## Changes -/

/-- What a revision does in the store. -/
theorem store_update_cases (w : World) (id : Uuid) (d : Details) :
    (∃ e w', (Store.update id d).run w = (.error e, w') ∧ w'.table = w.table) ∨
    ∃ row time w', w.table.find? id = some row ∧
      w.table.takenByOther id (row.revised d time).profile.email = false ∧
      (Store.update id d).run w = (.ok (row.revised d time).account, w') ∧
      w'.table = w.table.replace id (row.revised d time) := by
  unfold Store.update
  rw [run_bind, run_statement]
  dsimp only
  cases hfault : w.faults.sql.head?.join with
  | some fault =>
    left
    rw [World.runStatement_of_fault hfault]
    cases fault <;> exact ⟨_, _, rfl, rfl⟩
  | none =>
    rw [World.runStatement_of_no_fault hfault]
    rcases Store.revise_cases w.now id d w.table with ⟨fault, h⟩ | ⟨-, h⟩ |
      ⟨row, time, hrow, -, -, hfree, h⟩
    · left
      rw [show (Store.Statement.revise id d).run w.now (w.newId (.revise id d)) w.table = _ from h]
      cases fault <;> exact ⟨_, _, rfl, rfl⟩
    · left
      rw [show (Store.Statement.revise id d).run w.now (w.newId (.revise id d)) w.table = _ from h]
      exact ⟨_, _, rfl, rfl⟩
    · right
      rw [show (Store.Statement.revise id d).run w.now (w.newId (.revise id d)) w.table = _ from h]
      exact ⟨row, time, _, hrow, hfree, rfl, rfl⟩

/-- What the part of a change that may fail does. -/
theorem revised_cases (w : World) (id : Uuid) (d : Details) :
    (∃ e w', (revised id d).run w = (.error e, w') ∧ w'.table = w.table) ∨
    ∃ prepared row time w', d.prepare = .ok prepared ∧ w.table.find? id = some row ∧
      w.table.takenByOther id (row.revised prepared time).profile.email = false ∧
      (revised id d).run w = (.ok (row.revised prepared time).account, w') ∧
      w'.table = w.table.replace id (row.revised prepared time) := by
  unfold revised
  rcases accept_run d.prepare w with ⟨fault, -, haccept⟩ | ⟨prepared, hprepared, haccept⟩
  · obtain ⟨e, events, h⟩ := operation_run_error "identity.update" (run_bind_error _ haccept)
    exact .inl ⟨e, _, h, rfl⟩
  · have hbody : Action.run (do
        let prepared ← accept d.prepare
        let account ← Store.update id prepared
        return account.sanitized) w = Action.run (do
        let account ← Store.update id prepared
        return account.sanitized) w := run_bind_ok _ haccept
    rcases store_update_cases w id prepared with ⟨e, w', hupdate, htable⟩ |
      ⟨row, time, w', hrow, hfree, hupdate, htable⟩
    · obtain ⟨e', events, h⟩ :=
        operation_run_error "identity.update" (hbody.trans (run_bind_error _ hupdate))
      exact .inl ⟨e', _, h, htable⟩
    · refine .inr ⟨prepared, row, time, w', hprepared, hrow, hfree, ?_, htable⟩
      exact operation_run_ok _ (hbody.trans (run_bind_ok _ hupdate))

/-- A change that fails leaves the table alone, and one that is answered has replaced the row. -/
theorem update_cases (w : World) (id : Uuid) (d : Details) :
    ((∃ e, ((update id d).run w).1 = .error e) ∧ ((update id d).run w).2.table = w.table) ∨
    ∃ prepared row time, d.prepare = .ok prepared ∧ w.table.find? id = some row ∧
      w.table.takenByOther id (row.revised prepared time).profile.email = false ∧
      ((update id d).run w).1 = .ok (row.revised prepared time).account ∧
      ((update id d).run w).2.table = w.table.replace id (row.revised prepared time) := by
  rw [update_eq, run_bind_table (revised id d) fun account =>
    (asks_invalidate "identity.update" id).bind fun _ => asks_pure _]
  rcases revised_cases w id d with ⟨e, w₁, h, htable⟩ |
    ⟨prepared, row, time, w₁, hprepared, hrow, hfree, h, htable⟩
  · rw [run_bind_error _ h, h]
    exact .inl ⟨⟨e, rfl⟩, htable⟩
  · obtain ⟨_, w₂, h₂⟩ := returns_invalidate "identity.update" id w₁
    rw [run_bind_ok _ h, run_bind_ok _ h₂, h]
    exact .inr ⟨prepared, row, time, hprepared, hrow, hfree, rfl, htable⟩

theorem store_delete_cases (w : World) (id : Uuid) :
    (∃ e w', (Store.delete id).run w = (.error e, w') ∧ w'.table = w.table) ∨
    ∃ row w', w.table.find? id = some row ∧ (Store.delete id).run w = (.ok (), w') ∧
      w'.table = w.table.remove id := by
  cases hfault : w.faults.sql.head?.join with
  | some fault =>
    have hquery : Action.run (query (.remove id)) w =
        (.error (.store fault), w.tried (.remove id)) := by
      rw [run_query, World.runStatement_of_fault hfault]
    exact .inl ⟨_, _, run_bind_error _ hquery, rfl⟩
  | none =>
    have hquery : Action.run (query (.remove id)) w = (.ok (w.table.find? id).isSome,
        { w.tried (.remove id) with table := w.table.remove id }) := by
      rw [run_query, World.runStatement_of_no_fault hfault]
      rfl
    have hdelete : Action.run (Store.delete id) w = _ := run_bind_ok _ hquery
    cases hrow : w.table.find? id with
    | none =>
      rw [hrow] at hdelete
      refine .inl ⟨_, _, hdelete, ?_⟩
      rw [Store.Table.find?_eq_none] at hrow
      exact List.filter_eq_self.2 fun row hmem => by simpa using hrow row hmem
    | some row =>
      rw [hrow] at hdelete
      exact .inr ⟨row, _, rfl, hdelete, rfl⟩

/-- What the part of a deletion that may fail does. -/
theorem removed_cases (w : World) (id : Uuid) :
    (∃ e w', (removed id).run w = (.error e, w') ∧ w'.table = w.table) ∨
    ∃ row w', w.table.find? id = some row ∧ (removed id).run w = (.ok (), w') ∧
      w'.table = w.table.remove id := by
  unfold removed
  rcases store_delete_cases w id with ⟨e, w', h, htable⟩ | ⟨row, w', hrow, h, htable⟩
  · obtain ⟨e', events, h'⟩ := operation_run_error "identity.delete" h
    exact .inl ⟨e', _, h', htable⟩
  · exact .inr ⟨row, w', hrow, operation_run_ok _ h, htable⟩

/-- A deletion that fails leaves the table alone, and one that is answered has taken the row away. -/
theorem delete_cases (w : World) (id : Uuid) :
    ((∃ e, ((delete id).run w).1 = .error e) ∧ ((delete id).run w).2.table = w.table) ∨
    ∃ row, w.table.find? id = some row ∧ ((delete id).run w).1 = .ok () ∧
      ((delete id).run w).2.table = w.table.remove id := by
  rw [delete_eq, run_bind_table (removed id) fun _ =>
    (asks_invalidate "identity.delete" id).bind fun _ => asks_log trivial]
  rcases removed_cases w id with ⟨e, w₁, h, htable⟩ | ⟨row, w₁, hrow, h, htable⟩
  · rw [run_bind_error _ h, h]
    exact .inl ⟨⟨e, rfl⟩, htable⟩
  · obtain ⟨_, w₂, h₂⟩ := returns_invalidate "identity.delete" id w₁
    rw [run_bind_ok _ h, run_bind_ok _ h₂, h]
    exact .inr ⟨row, hrow, rfl, htable⟩

/-! ## Registration -/

theorem hashPassword_run (password : LooseText) (w : World) : (hashPassword password).run w =
    match Password.hashLoose? w.salt password with
    | some hash => (.ok hash, w)
    | none => (.error (.failure { cause := .internal }), w) := by
  have hsalt : Action.run (request .salt) w = (.ok w.salt, w) := rfl
  unfold hashPassword
  rw [run_bind_ok _ hsalt]
  rcases Password.hashLoose? w.salt password with _ | hash <;> rfl

theorem store_create_cases (w : World) (r : Registration) (hash : String) :
    (∃ e w', (Store.create r hash).run w = (.error e, w') ∧ w'.table = w.table) ∨
    ∃ id email time w', charsOf r.details.email = some email ∧
      (Store.create r hash).run w =
        (.ok ((Store.Draft.ofRegistration r hash).row id email time).secret, w') ∧
      w'.table = w.table ++ [(Store.Draft.ofRegistration r hash).row id email time] := by
  unfold Store.create
  rw [run_bind, run_statement]
  dsimp only
  cases hfault : w.faults.sql.head?.join with
  | some fault =>
    left
    rw [World.runStatement_of_fault hfault]
    cases fault <;> exact ⟨_, _, rfl, rfl⟩
  | none =>
    rw [World.runStatement_of_no_fault hfault]
    rcases Store.insert_cases w.now (w.newId (.insert (.ofRegistration r hash)))
      (.ofRegistration r hash) w.table with ⟨fault, h⟩ | ⟨email, time, hemail, -, -, -, -, h⟩
    · left
      rw [show (Store.Statement.insert (.ofRegistration r hash)).run w.now _ w.table = _ from h]
      cases fault <;> exact ⟨_, _, rfl, rfl⟩
    · right
      rw [show (Store.Statement.insert (.ofRegistration r hash)).run w.now _ w.table = _ from h]
      exact ⟨_, email, time, _, hemail, rfl, rfl⟩

theorem asks_announce (session : Session) : Action.Asks (Within Store.Reads fun _ => False) (do
    log (.accountRegistered session.account.id)
    return session) :=
  (asks_log trivial).bind fun _ => asks_pure _

theorem asks_look (name : String) (email : LooseText) :
    (refuseTaken name email).Asks (Within Store.Reads fun _ => False) :=
  (asks_refuseTaken name email).mono (Within.mono (fun _ h => by rw [h]; trivial) fun _ h => h)

/-- The error of an operation that has no token to give. -/
def issueError (name : String) : Token.IssueFault → Error
  | .unusableKey _ => .failure { cause := .internal, operation := some name }
  | fault => .token fault

/-- The session for a row at a time, or the error of an operation that has no token to give. -/
def sessionFor (config : Config) (name : String) (now : Calendar.Instant) (row : Store.Row) :
    Except Error Session :=
  match Token.issue now config.secret config.tokenMinutes row.profile.id row.profile.email with
  | .ok token => .ok ⟨row.account, token⟩
  | .error fault => .error (issueError name fault)

theorem sessionFor_of_ok {config : Config} {now : Calendar.Instant} {row : Store.Row}
    {token : String} (name : String) (h : Token.issue now config.secret config.tokenMinutes
      row.profile.id row.profile.email = .ok token) :
    sessionFor config name now row = .ok ⟨row.account, token⟩ := by
  unfold sessionFor
  rw [h]

theorem sessionFor_of_error {config : Config} {now : Calendar.Instant} {row : Store.Row}
    {fault : Token.IssueFault} (name : String) (h : Token.issue now config.secret
      config.tokenMinutes row.profile.id row.profile.email = .error fault) :
    sessionFor config name now row = .error (issueError name fault) := by
  unfold sessionFor
  rw [h]

theorem error_of_sessionFor {config : Config} {name : String} {now : Calendar.Instant}
    {row : Store.Row} {e : Error} (h : sessionFor config name now row = .error e) :
    ∃ fault, Token.issue now config.secret config.tokenMinutes row.profile.id row.profile.email =
      .error fault ∧ e = issueError name fault := by
  unfold sessionFor at h
  split at h
  · cases h
  · rename_i fault hissue
    exact ⟨fault, hissue, (Except.error.inj h).symm⟩

/-- The last part of a registration: it issues the token, and fails when there is none to give. -/
theorem issued_run (config : Config) (name : String) (row : Store.Row) (w : World) :
    ∃ events, Action.run (do
        let token ← issueToken config name row.account
        return Session.mk row.account token) w =
      (sessionFor config name w.now row, { w with events := events }) := by
  have hclock : Action.run (request .clock) w = (.ok w.now, w) := rfl
  have hissued : ∃ events, Action.run (issueToken config name row.account) w =
      (match Token.issue w.now config.secret config.tokenMinutes row.profile.id
          row.profile.email with
        | .ok token => .ok token
        | .error fault => .error (issueError name fault), { w with events := events }) := by
    unfold issueToken
    rw [run_bind_ok _ hclock]
    dsimp only [Store.Row.account]
    rcases Token.issue w.now config.secret config.tokenMinutes row.profile.id row.profile.email
      with fault | token
    · cases fault <;> exact ⟨_, rfl⟩
    · exact ⟨_, rfl⟩
  obtain ⟨events, h⟩ := hissued
  refine ⟨events, ?_⟩
  unfold sessionFor
  rcases hissue : Token.issue w.now config.secret config.tokenMinutes row.profile.id
    row.profile.email with fault | token
  · rw [hissue] at h
    exact run_bind_error _ h
  · rw [hissue] at h
    exact run_bind_ok _ h

/-- An operation lets the error of a token that cannot be issued through as it is. -/
theorem operation_run_issueError {a : Action α} {name : String} {fault : Token.IssueFault}
    (h : a.run w = (.error (issueError name fault), w')) :
    (operation name a).run w = (.error (issueError name fault), w') := by
  unfold operation
  rw [run_tryCatch, h]
  cases fault <;> rfl

/-- The part of a registration that ends with its row in the table. -/
def stored (r : Registration) : Action Account := do
  refuseTaken "identity.register" (normalEmail r.details.email)
  let prepared ← accept r.prepare
  let hash ← hashPassword (prepared.password.getD "")
  Store.create prepared hash

theorem enrolled_eq (config : Config) (r : Registration) :
    enrolled config r = operation "identity.register" (do
      let account ← stored r
      let token ← issueToken config "identity.register" account.sanitized
      return Session.mk account.sanitized token) := by
  unfold enrolled stored
  simp only [bind_assoc]

/-- A registration stores the row of what it prepared, with the hash of its password under the salt
of the world, or it fails and leaves the table alone. -/
theorem stored_cases (w : World) (r : Registration) :
    (∃ e w', (stored r).run w = (.error e, w') ∧ w'.table = w.table) ∨
    ∃ prepared hash id email time w', r.prepare = .ok prepared ∧
      charsOf prepared.details.email = some email ∧
      Password.hashLoose? w.salt (prepared.password.getD "") = some hash ∧
      (stored r).run w =
        (.ok ((Store.Draft.ofRegistration prepared hash).row id email time).secret, w') ∧
      w'.table = w.table ++ [(Store.Draft.ofRegistration prepared hash).row id email time] := by
  have htable : ((refuseTaken "identity.register" (normalEmail r.details.email)).run w).2.table =
      w.table := (asks_look "identity.register" (normalEmail r.details.email)).table_of_reads w
  have hsalt : ((refuseTaken "identity.register" (normalEmail r.details.email)).run w).2.salt =
      w.salt := Action.run_salt _ w
  unfold stored
  rcases h₁ : (refuseTaken "identity.register" (normalEmail r.details.email)).run w with
    ⟨e | _, w₁⟩
  all_goals
    rw [h₁] at htable hsalt
  · exact .inl ⟨e, w₁, run_bind_error _ h₁, htable⟩
  rw [run_bind_ok _ h₁]
  rcases accept_run r.prepare w₁ with ⟨fault, -, h₂⟩ | ⟨prepared, hprepared, h₂⟩
  · exact .inl ⟨_, w₁, run_bind_error _ h₂, htable⟩
  rw [run_bind_ok _ h₂]
  have h₃ := hashPassword_run (prepared.password.getD "") w₁
  rw [hsalt] at h₃
  cases hhash : Password.hashLoose? w.salt (prepared.password.getD "") with
  | none =>
    rw [hhash] at h₃
    exact .inl ⟨_, w₁, run_bind_error _ h₃, htable⟩
  | some hash =>
    rw [hhash] at h₃
    rw [run_bind_ok _ h₃]
    rcases store_create_cases w₁ prepared hash with ⟨e, w', h, hsame⟩ |
      ⟨id, email, time, w', hemail, h, hadded⟩
    · exact .inl ⟨e, w', h, hsame.trans htable⟩
    · exact .inr ⟨prepared, hash, id, email, time, w', hprepared, hemail, hhash, h,
        hadded.trans (by rw [htable])⟩

/-- A registration fails and leaves the table alone, or stores its row.  Then it answers with the
session for the row, if a token can be issued. -/
theorem register_cases (config : Config) (r : Registration) (w : World) :
    ((∃ e, ((register config r).run w).1 = .error e) ∧
      ((register config r).run w).2.table = w.table) ∨
    ∃ prepared hash id email time, r.prepare = .ok prepared ∧
      charsOf prepared.details.email = some email ∧
      Password.hashLoose? w.salt (prepared.password.getD "") = some hash ∧
      ((register config r).run w).1 = sessionFor config "identity.register" w.now
        ((Store.Draft.ofRegistration prepared hash).row id email time) ∧
      ((register config r).run w).2.table =
        w.table ++ [(Store.Draft.ofRegistration prepared hash).row id email time] := by
  rw [register_eq, run_bind_table _ asks_announce, enrolled_eq]
  have hnow := Action.run_now (stored r) w
  rcases stored_cases w r with ⟨e, w₁, h, hsame⟩ |
    ⟨prepared, hash, id, email, time, w₁, hprepared, hemail, hhash, h, hadded⟩
  · obtain ⟨e', events, herror⟩ := operation_run_error "identity.register" (run_bind_error _ h)
    rw [run_bind_error _ herror, herror]
    exact .inl ⟨⟨e', rfl⟩, hsame⟩
  · right
    refine ⟨prepared, hash, id, email, time, hprepared, hemail, hhash, ?_⟩
    rw [h] at hnow
    obtain ⟨events, hissued⟩ := issued_run config "identity.register"
      ((Store.Draft.ofRegistration prepared hash).row id email time) w₁
    rw [show w₁.now = w.now from hnow] at hissued
    have hbody : Action.run (do
        let account ← stored r
        let token ← issueToken config "identity.register" account.sanitized
        return Session.mk account.sanitized token) w = _ := (run_bind_ok _ h).trans hissued
    rcases hsession : sessionFor config "identity.register" w.now
        ((Store.Draft.ofRegistration prepared hash).row id email time) with e | session
    · rw [hsession] at hbody
      obtain ⟨fault, -, rfl⟩ := error_of_sessionFor hsession
      have herror := operation_run_issueError hbody
      rw [run_bind_error _ herror, herror]
      exact ⟨rfl, hadded⟩
    · rw [hsession] at hbody
      have hok := operation_run_ok "identity.register" hbody
      rw [run_bind_ok _ hok, hok]
      exact ⟨rfl, hadded⟩

/-- A registration leaves the table alone, or adds a row with the hash of its password under the
salt of the world. -/
theorem register_table (config : Config) (r : Registration) (w : World) :
    ((register config r).run w).2.table = w.table ∨
    ∃ prepared hash id email time, r.prepare = .ok prepared ∧
      charsOf prepared.details.email = some email ∧
      Password.hashLoose? w.salt (prepared.password.getD "") = some hash ∧
      ((register config r).run w).2.table =
        w.table ++ [(Store.Draft.ofRegistration prepared hash).row id email time] := by
  rcases register_cases config r w with ⟨-, hsame⟩ |
    ⟨prepared, hash, id, email, time, hprepared, hemail, hhash, -, hadded⟩
  · exact .inl hsame
  · exact .inr ⟨prepared, hash, id, email, time, hprepared, hemail, hhash, hadded⟩

/-! ## Registrations that go through -/

/-- Looking an email up in a world whose database works. -/
theorem findByEmail_run (hs : w.Sound) {email : LooseText} {found : Option Store.Row}
    (hfound : Store.lookUp email w.table = .ok found) : (Store.findByEmail email).run w =
    (.ok (found.map Store.Row.secret), w.tried (.findByEmail email)) := by
  have hrun : (Store.Statement.findByEmail email).run w.now (w.newId (.findByEmail email)) w.table =
      (.ok found, w.table) := congrArg (·, w.table) hfound
  have hquery : Action.run (query (.findByEmail email)) w =
      (.ok found, w.tried (.findByEmail email)) := by
    rw [run_query, World.runStatement_of_no_fault hs.no_fault, hrun]
    rfl
  exact run_bind_ok _ hquery

/-- A free email is not refused. -/
theorem refuseTaken_run (hs : w.Sound) (name : String) {email : LooseText}
    (hfree : Store.lookUp email w.table = .ok none) :
    ∃ w', (refuseTaken name email).run w = (.ok (), w') ∧ w.Alike w' := by
  have halike := World.Alike.of_run hs (asks_look name email)
  have hlook : (lookAhead name email).run w = (.ok none, w.tried (.findByEmail email)) := by
    unfold lookAhead
    rw [run_tryCatch, findByEmail_run hs hfree]
    rfl
  have hok : ∃ w', (refuseTaken name email).run w = (.ok (), w') := by
    unfold refuseTaken
    split
    · exact ⟨w, rfl⟩
    · exact ⟨_, run_bind_ok _ hlook⟩
  obtain ⟨w', h⟩ := hok
  rw [h] at halike
  exact ⟨w', h, halike⟩

theorem store_create_run (hs : w.Sound) {r : Registration} {hash : String} {row : Store.Row}
    {t : Store.Table} (hinsert : Store.insert w.now (World.insertionId (w.insertions + 1))
      (.ofRegistration r hash) w.table = (.ok row, t)) :
    ((Store.create r hash).run w).2.table = t := by
  have hrun : (Store.Statement.insert (.ofRegistration r hash)).run w.now
      (w.newId (.insert (.ofRegistration r hash))) w.table = (.ok row, t) := hinsert
  unfold Store.create
  rw [run_bind, run_statement, World.runStatement_of_no_fault hs.no_fault]
  dsimp only
  rw [hrun]
  rfl

/-- A registration that breaks no rule, under an email that is free, is stored when its row can be
inserted and the database works. -/
theorem register_inserts (hs : w.Sound) (config : Config) {r prepared : Registration}
    {hash : String} {row : Store.Row} {t : Store.Table} (hprepared : r.prepare = .ok prepared)
    (hhash : Password.hashLoose? w.salt (prepared.password.getD "") = some hash)
    (hfree : Store.lookUp (normalEmail r.details.email) w.table = .ok none)
    (hinsert : Store.insert w.now (World.insertionId (w.insertions + 1))
      (.ofRegistration prepared hash) w.table = (.ok row, t)) :
    ((register config r).run w).2.table = t := by
  obtain ⟨w₁, h₁, halike⟩ := refuseTaken_run hs "identity.register" hfree
  have h₂ : (accept (.ok prepared)).run w₁ = (.ok prepared, w₁) := rfl
  have h₃ := hashPassword_run (prepared.password.getD "") w₁
  rw [halike.salt, hhash] at h₃
  rw [← halike.now, ← halike.insertions, ← halike.table] at hinsert
  rw [register_eq, run_bind_table _ asks_announce]
  unfold enrolled
  rw [operation_table, run_bind_ok _ h₁, hprepared, run_bind_ok _ h₂, run_bind_ok _ h₃,
    run_bind_table (C := fun _ => False) (Store.create prepared hash) fun account =>
      (asks_issueToken _ _ _).bind fun _ => asks_pure _]
  exact store_create_run halike.sound' hinsert

end Accounts.Identity
