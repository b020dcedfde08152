import Accounts.Proofs.Service.History
import Accounts.Proofs.Token.RoundTrip

/-!
# Login answers from the history

A login succeeds for the members of a run alone: those that were registered and not deleted since,
under the email that they go by now, with a password that hashes to the hash of their registration:

    login succeeds  <->  no rule is broken, and a member has the email and accepts the password
-/

namespace Accounts

open Accounts.Action
open Accounts.Request (Within)
open Calendar (Instant second)

variable {α : Type} {w : World}

/-- Credentials with a valid email and a valid password break no rule, and no other ones do. -/
theorem Credentials.violations_eq_nil_iff {c : Credentials} : c.violations = .ok [] ↔
    checkEmail true (some (normalEmail c.email)) = none ∧ checkPassword c.password = .ok none := by
  unfold violations
  constructor
  · intro h
    obtain ⟨password, hpassword, hnone⟩ := map_eq_ok h
    rw [List.append_eq_nil_iff, Option.toList_eq_nil_iff, Option.toList_eq_nil_iff] at hnone
    exact ⟨hnone.1, hnone.2 ▸ hpassword⟩
  · rintro ⟨hemail, hpassword⟩
    rw [hemail, hpassword]
    rfl

/-- The email of valid credentials is looked up. -/
theorem Credentials.lookUp_of_valid {c : Credentials} (h : c.violations = .ok [])
    {t : Store.Table} {found : Option Store.Row}
    (hfound : t.findEmail? (normalEmail c.email).chars = found) :
    Store.lookUp (normalEmail c.email) t = .ok found :=
  Store.lookUp_eq_ok_iff.2 ⟨isWhole_of_required (Credentials.violations_eq_nil_iff.1 h).1, hfound⟩

namespace Identity

variable {config : Config} {c : Credentials}

theorem issueToken_run {token : String} {account : Account} (name : String)
    (h : Token.issue w.now config.secret config.tokenMinutes account.id account.email = .ok token) :
    (issueToken config name account).run w = (.ok token, w) := by
  have hclock : Action.run (request .clock) w = (.ok w.now, w) := rfl
  unfold issueToken
  rw [run_bind_ok _ hclock, h]
  rfl

theorem checkPassword_cases (w : World) (row : Store.Row) (p : LooseText) :
    (Password.verifyLoose (some row.hash) p = .accepted ∧
      (checkPassword row.secret p).run w = (.ok (), w)) ∨
    (Password.verifyLoose (some row.hash) p ≠ .accepted ∧
      ∃ e w', (checkPassword row.secret p).run w = (.error e, w')) := by
  unfold checkPassword
  rw [show row.secret.password = some row.hash from rfl]
  cases Password.verifyLoose (some row.hash) p with
  | accepted => exact .inl ⟨rfl, rfl⟩
  | refused => exact .inr ⟨by decide, _, _, rfl⟩
  | unusable => exact .inr ⟨by decide, _, _, rfl⟩

theorem login_of_error {e : Error} {w' : World} (h : (decided config c).run w = (.error e, w')) :
    ∃ e, ((login config c).run w).1 = .error e := by
  obtain ⟨e', events, herror⟩ := operation_run_error "identity.login" h
  rw [login_eq, admitted, run_bind_error _ herror]
  exact ⟨e', rfl⟩

theorem login_of_ok {session : Session} {w' : World}
    (h : (decided config c).run w = (.ok session, w')) :
    ((login config c).run w).1 = .ok session := by
  rw [login_eq, admitted, run_bind_ok _ (operation_run_ok "identity.login" h)]
  rfl

theorem entered_cases (w : World) (c : Credentials) (row : Store.Row) (hissue : ∀ id email,
      ∃ token, Token.issue w.now config.secret config.tokenMinutes id email = .ok token) :
    (∃ token, Password.verifyLoose (some row.hash) (c.password.getD "") = .accepted ∧
      Token.issue w.now config.secret config.tokenMinutes row.profile.id row.profile.email =
        .ok token ∧ (entered config c row.secret).run w = (.ok ⟨row.account, token⟩, w)) ∨
    (Password.verifyLoose (some row.hash) (c.password.getD "") ≠ .accepted ∧
      ∃ e w', (entered config c row.secret).run w = (.error e, w')) := by
  rcases checkPassword_cases w row (c.password.getD "") with ⟨hverify, hcheck⟩ |
    ⟨hverify, e, w', hcheck⟩
  · obtain ⟨token, htoken⟩ := hissue row.profile.id row.profile.email
    have hissued : (issueToken config "identity.login" row.account).run w = (.ok token, w) :=
      issueToken_run "identity.login" htoken
    exact .inl ⟨token, hverify, htoken, (run_bind_ok _ hcheck).trans (run_bind_ok _ hissued)⟩
  · exact .inr ⟨hverify, e, w', run_bind_error _ hcheck⟩

/-- What a login does in a world whose database works: it succeeds for the row with the email, when
no rule is broken and the password is accepted, and else it fails. -/
theorem login_cases (hs : w.Sound) (hissue : ∀ id email, ∃ token,
      Token.issue w.now config.secret config.tokenMinutes id email = .ok token) :
    (∃ row token, c.violations = .ok [] ∧
      w.table.findEmail? (normalEmail c.email).chars = some row ∧
      Password.verifyLoose (some row.hash) (c.password.getD "") = .accepted ∧
      Token.issue w.now config.secret config.tokenMinutes row.profile.id row.profile.email =
        .ok token ∧
      ((login config c).run w).1 = .ok ⟨row.account, token⟩) ∨
    (∃ e, ((login config c).run w).1 = .error e) ∧ (c.violations = .ok [] → ∀ row,
      w.table.findEmail? (normalEmail c.email).chars = some row →
        Password.verifyLoose (some row.hash) (c.password.getD "") ≠ .accepted) := by
  rcases accept_run (prepare () c.violations) w with ⟨fault, hbroken, haccept⟩ |
    ⟨_, hvalid, haccept⟩
  · refine .inr ⟨login_of_error (run_bind_error _ haccept), fun hnone => ?_⟩
    rw [hnone] at hbroken
    cases hbroken
  have hnone : c.violations = .ok [] := (prepare_eq_ok hvalid).2
  cases hrow : w.table.findEmail? (normalEmail c.email).chars with
  | none =>
    have hfind := findByEmail_run hs (Credentials.lookUp_of_valid hnone hrow)
    have hdecided : (decided config c).run w = (.error (.failure { cause := .badCredentials }),
        w.tried (.findByEmail (normalEmail c.email))) :=
      (run_bind_ok _ haccept).trans (run_bind_ok _ hfind)
    exact .inr ⟨login_of_error hdecided, fun _ row h => nomatch h⟩
  | some row =>
    have hfind := findByEmail_run hs (Credentials.lookUp_of_valid hnone hrow)
    have hdecided : (decided config c).run w =
        (entered config c row.secret).run (w.tried (.findByEmail (normalEmail c.email))) :=
      (run_bind_ok _ haccept).trans (run_bind_ok _ hfind)
    rcases entered_cases (w.tried (.findByEmail (normalEmail c.email))) c row hissue with
      ⟨token, hverify, htoken, hentered⟩ | ⟨hverify, e, w', hentered⟩
    · exact .inl ⟨row, token, hnone, rfl, hverify, htoken,
        login_of_ok (hdecided.trans hentered)⟩
    · refine .inr ⟨login_of_error (hdecided.trans hentered), fun _ row' h => ?_⟩
      cases h
      exact hverify

end Identity

/-! ## Members -/

section Members

variable {m : Member} {row : Store.Row}

theorem Member.hash?_eq (h : m.entry = row.entry) : m.hash? = some row.hash :=
  congrArg (fun e => e.2.2) h

/-- A member accepts the passwords that are accepted for its row. -/
theorem Member.accepts_iff (h : m.entry = row.entry) {p : LooseText} (hp : p.isWhole = true) :
    m.Accepts p.chars ↔ Password.verifyLoose (some row.hash) p = .accepted := by
  have hhash := Member.hash?_eq h
  rw [Password.verifyLoose_of_isWhole hp, Password.verify_eq_accepted (Password.hash_ne_empty hhash)]
  constructor
  · rintro ⟨hash, hmade, hp⟩
    rw [hhash] at hmade
    cases hmade
    exact hp
  · exact fun hp => ⟨row.hash, hhash, hp⟩

/-- A member accepts the password of its registration. -/
theorem Member.accepts_own (h : m.entry = row.entry) : m.Accepts m.password := by
  have hhash := Member.hash?_eq h
  exact ⟨row.hash, hhash, (Password.hashWith?_of_hash hhash m.password).trans hhash⟩

end Members

/-! ## Login -/

/-- What a login without faults does after a run, by the members that the history of the run has. -/
structure LoginAnswers (setup : Setup) (ms : List Member) (w : World) (c : Credentials) : Prop where
  /-- It succeeds when it breaks no rule and a member goes by the email and accepts the password. -/
  succeeds : (∃ session, (Move.record setup ⟨.login c, {}⟩ w).answer = .ok (.session session)) ↔
    c.violations = .ok [] ∧ ∃ m ∈ ms, normalEmail c.email = m.email ∧
      m.Accepts (c.password.getD "").chars
  /-- The password of the registration works with every spelling of the current email. -/
  own : ∀ m ∈ ms, normalEmail c.email = m.email → c.password = some (m.password : LooseText) →
    ∃ session, (Move.record setup ⟨.login c, {}⟩ w).answer = .ok (.session session)
  /-- Nothing works with an email that no member goes by. -/
  stale : (∀ m ∈ ms, normalEmail c.email ≠ m.email) →
    ∃ e, (Move.record setup ⟨.login c, {}⟩ w).answer = .error e
  /-- The session shows the current row without its password, and its token opens to the row until
  it expires, so at once when tokens live for some time. -/
  session : ∀ session, (Move.record setup ⟨.login c, {}⟩ w).answer = .ok (.session session) →
    ∃ m ∈ ms, ∃ row expiresAt, normalEmail c.email = m.email ∧ w.table.find? m.id = some row ∧
      row.profile.email = m.email ∧ session.account = row.account ∧
      (∀ room later, Instant.seconds w.now * second ≤ later →
        Token.read room later setup.identity.secret session.token =
          if later < Instant.seconds (w.now + setup.identity.tokenMinutes * (60 * second)) *
              second then .ok ⟨m.id, m.email, expiresAt⟩
          else .error .expired) ∧
      (0 < setup.identity.tokenMinutes → ∀ room,
        Token.read room w.now setup.identity.secret session.token = .ok ⟨m.id, m.email, expiresAt⟩)
  /-- The accounts stay as they are. -/
  table : (Move.record setup ⟨.login c, {}⟩ w).after.table = w.table
  /-- The cache stays as it is. -/
  keys : (Move.record setup ⟨.login c, {}⟩ w).after.keys = w.keys

theorem World.sound_of_faultless (h : w.faults = {}) : w.Sound := by
  intro fault hf
  rw [h] at hf
  cases hf

theorem World.sound_of_no_faults (w : World) : (w.facing {}).Sound := World.sound_of_faultless rfl

theorem Action.Asks.run_keys {S : Store.Statement → Prop} {a : Action α}
    (ha : a.Asks (Within S fun _ => False)) (w : World) : (a.run w).2.keys = w.keys := by
  refine Program.Asks.run_keeps (I := fun w' => w'.keys = w.keys) ha (fun r w' hr hw' => ?_) rfl
  rw [w'.answer_keys, hw']
  rintro c rfl
  exact hr

theorem Step.keys_login (setup : Setup) (c : Credentials) (w : World) :
    ((Step.login c).run setup w).2.keys = w.keys := by
  rw [Step.run_login]
  dsimp only
  exact (Identity.asks_login setup.identity c).run_keys w

/-- The row of a member is the one of its identifier and the one of its email. -/
theorem Agree.row_of_member {ms : List Member} {t : Store.Table} (h : Agree ms t) {m : Member}
    (hm : m ∈ ms) : ∃ row, m.entry = row.entry ∧ t.find? m.id = some row ∧
      t.findEmail? m.email = some row := by
  obtain ⟨row, hrow, hentry⟩ := h.exists_row hm
  have hid : row.profile.id = m.id := congrArg (fun e => e.1) hentry
  have hemail : row.profile.email = m.email := congrArg (fun e => e.2.1) hentry
  exact ⟨row, hentry.symm, hid ▸ h.distinct.find? hrow, hemail ▸ h.distinct.findEmail? hrow⟩

section Answers

variable {ms : List Member}

/-- The answer of a login is a session for a member, or an error when no member fits. -/
theorem Agree.login_cases (h : Agree ms w.table) (setup : Setup) (c : Credentials)
    (hissue : ∀ id email, ∃ token, Token.issue w.now setup.identity.secret
      setup.identity.tokenMinutes id email = .ok token) :
    (∃ m ∈ ms, ∃ row token, c.violations = .ok [] ∧ normalEmail c.email = m.email ∧
      m.entry = row.entry ∧ w.table.find? m.id = some row ∧ m.Accepts (c.password.getD "").chars ∧
      Token.issue w.now setup.identity.secret setup.identity.tokenMinutes m.id m.email = .ok token ∧
      (Move.record setup ⟨.login c, {}⟩ w).answer = .ok (.session ⟨row.account, token⟩)) ∨
    (∃ e, (Move.record setup ⟨.login c, {}⟩ w).answer = .error e) ∧ (c.violations = .ok [] →
      ∀ m ∈ ms, normalEmail c.email = m.email → ¬ m.Accepts (c.password.getD "").chars) := by
  have hanswer : (Move.record setup ⟨.login c, {}⟩ w).answer =
      ((Identity.login setup.identity c).run (w.facing {})).1.map .session := by
    rw [Move.record_answer, Step.run_login]
  have hwhole (h : c.violations = .ok []) :
      (normalEmail c.email).isWhole = true ∧ (c.password.getD "").isWhole = true := by
    obtain ⟨hcheck, hpassword⟩ := Credentials.violations_eq_nil_iff.1 h
    exact ⟨isWhole_of_required hcheck, (hashable_of_checkPassword hpassword).1⟩
  rcases Identity.login_cases (c := c) w.sound_of_no_faults hissue with
    ⟨row, token, hnone, hrow, hverify, htoken, hok⟩ | ⟨⟨e, herror⟩, hrefused⟩
  · left
    obtain ⟨m, hm, hentry⟩ := h.exists_member (Store.Table.mem_of_findEmail? hrow)
    have hid : m.id = row.profile.id := congrArg (fun e => e.1) hentry
    have hemail : m.email = row.profile.email := congrArg (fun e => e.2.1) hentry
    obtain ⟨row', hentry', hfind, hfound⟩ := h.row_of_member hm
    have hsame : row' = row := by
      rw [hemail, Store.Table.email_of_findEmail? hrow] at hfound
      exact Option.some.inj (hfound.symm.trans hrow)
    subst hsame
    refine ⟨m, hm, row', token, hnone, ?_, hentry, hfind,
      (Member.accepts_iff hentry (hwhole hnone).2).2 hverify, ?_, ?_⟩
    · rw [hemail, Store.Table.email_of_findEmail? hrow]
      exact LooseText.eq_coe_of_isWhole (hwhole hnone).1
    · rw [hid, hemail]
      exact htoken
    · rw [hanswer, hok]
      rfl
  · right
    refine ⟨⟨e, by rw [hanswer, herror]; rfl⟩, fun hnone m hm hemail haccepts => ?_⟩
    obtain ⟨row, hentry, -, hfound⟩ := h.row_of_member hm
    have hchars : (normalEmail c.email).chars = m.email := congrArg LooseText.chars hemail
    rw [← hchars] at hfound
    exact hrefused hnone row hfound ((Member.accepts_iff hentry (hwhole hnone).2).1 haccepts)

/-- Where the history agrees with the table, login answers from the history. -/
theorem Agree.login_answers (h : Agree ms w.table) (setup : Setup) (c : Credentials)
    (hissue : ∀ id email, ∃ token, Token.issue w.now setup.identity.secret
      setup.identity.tokenMinutes id email = .ok token) : LoginAnswers setup ms w c := by
  have hsucceeds : (∃ session, (Move.record setup ⟨.login c, {}⟩ w).answer = .ok (.session session)) ↔
      c.violations = .ok [] ∧ ∃ m ∈ ms, normalEmail c.email = m.email ∧
        m.Accepts (c.password.getD "").chars := by
    rcases h.login_cases setup c hissue with
      ⟨m, hm, row, token, hnone, hemail, -, -, haccepts, -, hanswer⟩ | ⟨⟨e, hanswer⟩, hrefused⟩
    · exact ⟨fun _ => ⟨hnone, m, hm, hemail, haccepts⟩, fun _ => ⟨_, hanswer⟩⟩
    · constructor
      · rintro ⟨session, hok⟩
        rw [hanswer] at hok
        cases hok
      · rintro ⟨hnone, m, hm, hemail, haccepts⟩
        exact absurd haccepts (hrefused hnone m hm hemail)
  refine ⟨hsucceeds, fun m hm hemail hpassword => ?_, fun hstale => ?_, fun session hok => ?_, ?_, ?_⟩
  · obtain ⟨row, hentry, -, -⟩ := h.row_of_member hm
    have hnone : c.violations = .ok [] := by
      refine Credentials.violations_eq_nil_iff.2 ⟨?_, ?_⟩
      · rw [hemail]
        exact h.emails m hm
      · rw [hpassword]
        exact h.passwords m hm
    refine hsucceeds.2 ⟨hnone, m, hm, hemail, ?_⟩
    rw [hpassword]
    exact Member.accepts_own hentry
  · rcases h.login_cases setup c hissue with
      ⟨m, hm, row, token, -, hemail, -⟩ | ⟨herror, -⟩
    · exact absurd hemail (hstale m hm)
    · exact herror
  · rcases h.login_cases setup c hissue with
      ⟨m, hm, row, token, -, hemail, hentry, hfind, -, htoken, hanswer⟩ | ⟨⟨e, hanswer⟩, -⟩
    · rw [hanswer] at hok
      cases hok
      obtain ⟨expiresAt, hread⟩ := Token.read_issue htoken
      refine ⟨m, hm, row, expiresAt, hemail, hfind, (congrArg (fun e => e.2.1) hentry).symm, rfl,
        hread, fun hminutes room => ?_⟩
      rw [hread room w.now (Token.seconds_le w.now), if_pos (Token.accepted_at_once w.now hminutes)]
    · rw [hanswer] at hok
      cases hok
  · rw [Move.record_table, Step.table_login]
    rfl
  · rw [Move.record_keys, Step.keys_login]
    rfl

end Answers

/-- **Logins answer from the history.**  A login without faults answers from the history of the run
of the service before it, when tokens can be issued. -/
theorem login_answers_from_history (setup : Setup) (start : Instant) (salt : String)
    (faults : Faults) (moves : List Move) (hmoves : ∀ m ∈ moves, m.step.ByService) (c : Credentials)
    (hissue : ∀ id email, ∃ token,
      Token.issue (finish setup moves (World.started setup start salt faults)).now
        setup.identity.secret setup.identity.tokenMinutes id email = .ok token) :
    LoginAnswers setup (members (records setup moves (World.started setup start salt faults)))
      (finish setup moves (World.started setup start salt faults)) c :=
  (members_agree setup start salt faults hmoves).login_answers setup c hissue

/-! ## A run to try -/

/-- A registration with blanks and capitals in its email. -/
def sampleRegistration : Registration := ⟨{ email := some " Ann@b.co " }, some "secret!"⟩

/-- A run of the registration alone. -/
def sampleEnrolment : List Move := [⟨.register sampleRegistration, {}⟩]

/-- Credentials for it, with another spelling of the email. -/
def sampleCredentials : Credentials := ⟨some "ANN@b.co", some "secret!"⟩

/-- A text of one surrogate. -/
def brokenText : LooseText := ⟨"\ufffd", false⟩

/-- The registration with a broken name. -/
def brokenRegistration : Registration :=
  { sampleRegistration with
    details := { sampleRegistration.details with firstName := some brokenText } }

/-- A salt to try runs with. -/
def sampleSalt : String := "$2b$04$abcdefghijklmnopqrstuu"

/-- The world after starting and the registration. -/
def sampleWorld (setup : Setup) : World :=
  finish setup sampleEnrolment (World.started setup 0 sampleSalt {})

/-- The history of the registration. -/
def sampleHistory (setup : Setup) : List Member :=
  members (records setup sampleEnrolment (World.started setup 0 sampleSalt {}))

theorem sample_byService : ∀ m ∈ sampleEnrolment, m.step.ByService := by
  intro m hm
  rw [List.mem_singleton.1 hm]
  trivial

theorem sample_prepare : sampleRegistration.prepare = .ok sampleRegistration.normal := by
  have h : sampleRegistration.normal.violations = .ok [] := by decide +kernel
  unfold Registration.prepare
  rw [h]
  rfl

theorem broken_prepare : brokenRegistration.prepare = .ok brokenRegistration.normal := by
  have h : brokenRegistration.normal.violations = .ok [] := by decide +kernel
  unfold Registration.prepare
  rw [h]
  rfl

theorem sample_hash : ∃ hash, Password.hashWith? sampleSalt "secret!" = some hash := by
  have hsize : "secret!".utf8ByteSize ≤ Password.maxBytes := by decide
  have hsome := Password.isSome_hashWith? sampleSalt hsize
  rw [show (Password.Settings.ofText? sampleSalt).isSome = true by decide +kernel] at hsome
  exact Option.isSome_iff_exists.1 hsome

theorem sample_insert {time : Calendar.DateTime} (h : Store.stamp? 0 = some time) (id : Uuid)
    (hash : String) : ∃ row, row.profile.id = id ∧
      Store.insert 0 id (.ofRegistration sampleRegistration.normal hash) [] = (.ok row, [row]) := by
  unfold Store.insert
  rw [h]
  exact ⟨_, rfl, rfl⟩

/-- The same setup with another lifetime of tokens. -/
def Setup.withLifetime (setup : Setup) (minutes : Int) : Setup :=
  { setup with site :=
    { setup.site with identity := { setup.site.identity with tokenMinutes := minutes } } }

/-- The registration is stored. -/
theorem sampleWorld_table (setup : Setup) :
    ∃ row, row.profile.id = World.insertionId 1 ∧ (sampleWorld setup).table = [row] := by
  have hempty := World.started_empty setup 0 sampleSalt {}
  obtain ⟨hash, hhash⟩ := sample_hash
  obtain ⟨time, htime⟩ : ∃ time, Store.stamp? 0 = some time :=
    Option.isSome_iff_exists.1 (by decide +kernel)
  obtain ⟨row, hid, hinsert⟩ := sample_insert htime (World.insertionId (0 + 1)) hash
  generalize hw : World.started setup 0 sampleSalt {} = w at hempty
  have hsalt : (w.facing {}).salt = sampleSalt := hempty.salt
  have htable : (w.facing {}).table = [] := hempty.table
  have hinserted : Store.insert (w.facing {}).now
      (World.insertionId ((w.facing {}).insertions + 1))
      (.ofRegistration sampleRegistration.normal hash) (w.facing {}).table = (.ok row, [row]) := by
    rw [htable, show (w.facing {}).now = 0 from hempty.now,
      show (w.facing {}).insertions = 0 from hempty.insertions, hinsert]
  refine ⟨row, hid, ?_⟩
  unfold sampleWorld sampleEnrolment
  rw [hw, finish_singleton, Move.record_table, Step.run_register]
  dsimp only
  exact Identity.register_inserts w.sound_of_no_faults setup.identity sample_prepare
    (by rw [hsalt]; exact hhash) (by rw [htable]; rfl) hinserted

/-- The member of the registration. -/
theorem sample_member (setup : Setup) : ∃ m ∈ sampleHistory setup,
    normalEmail sampleCredentials.email = m.email ∧
      sampleCredentials.password = some (m.password : LooseText) := by
  obtain ⟨row, -, htable⟩ := sampleWorld_table setup
  have hagree : Agree (sampleHistory setup) (sampleWorld setup).table :=
    members_agree setup 0 sampleSalt {} sample_byService
  rw [htable] at hagree
  obtain ⟨m, hm, -⟩ := hagree.exists_member List.mem_cons_self
  refine ⟨m, hm, ?_⟩
  have hmember : m ∈ Record.members
      (Move.record setup ⟨.register sampleRegistration, {}⟩ (World.started setup 0 sampleSalt {})) [] :=
    hm
  unfold Record.members at hmember
  rw [Move.record_move] at hmember
  dsimp only at hmember
  rw [List.nil_append] at hmember
  obtain ⟨row', -, rfl⟩ := List.mem_map.1 hmember
  have hemail : normalEmail sampleCredentials.email =
      (normalEmail sampleRegistration.details.email).chars := by decide +kernel
  exact ⟨hemail, rfl⟩

theorem sampleWorld_now (setup : Setup) : (sampleWorld setup).now = 0 := by
  have hempty := World.started_empty setup 0 sampleSalt {}
  generalize hw : World.started setup 0 sampleSalt {} = w at hempty
  unfold sampleWorld sampleEnrolment
  rw [hw, finish_singleton, Move.record_now, Step.run_register]
  dsimp only
  exact (Action.run_now _ _).trans hempty.now

theorem sampleWorld_salt (setup : Setup) : (sampleWorld setup).salt = sampleSalt := by
  have hempty := World.started_empty setup 0 sampleSalt {}
  generalize hw : World.started setup 0 sampleSalt {} = w at hempty
  unfold sampleWorld sampleEnrolment
  rw [hw, finish_singleton, Move.record_after, Step.run_register]
  dsimp only
  exact (Action.run_salt _ _).trans hempty.salt

/-- The email of the registration is taken afterwards. -/
theorem sampleWorld_findEmail? (setup : Setup) : ∃ row, (sampleWorld setup).table.findEmail?
    (normalEmail sampleRegistration.details.email).chars = some row := by
  have hagree : Agree (sampleHistory setup) (sampleWorld setup).table :=
    members_agree setup 0 sampleSalt {} sample_byService
  obtain ⟨m, hm, hemail, -⟩ := sample_member setup
  obtain ⟨row, hrow, hentry⟩ := hagree.exists_row hm
  have hsame : row.profile.email = (normalEmail sampleRegistration.details.email).chars := by
    calc row.profile.email
        = m.email := congrArg (fun e => e.2.1) hentry
      _ = (normalEmail sampleCredentials.email).chars := (congrArg LooseText.chars hemail).symm
      _ = _ := by decide +kernel
  exact ⟨row, hsame ▸ hagree.distinct.findEmail? hrow⟩

theorem sample_issue : ∀ minutes ∈ [0, 30], ∀ id email, ∃ token, Token.issue
    (sampleWorld (Setup.sample.withLifetime minutes)).now Setup.sample.identity.secret minutes id
      email = .ok token := by
  have hkey : Token.keyFault? Setup.sample.identity.secret = none := by decide +kernel
  intro minutes hminutes id email
  rw [sampleWorld_now]
  simp only [List.mem_cons, List.not_mem_nil, or_false] at hminutes
  rcases hminutes with rfl | rfl
  · exact Token.issue_of_expiry (show Token.expiry 0 0 = .ok 0 from rfl) hkey id email
  · exact Token.issue_of_expiry (show Token.expiry 0 30 = .ok 1800 from rfl) hkey id email

/-- With tokens that live for half an hour, the credentials of the registration get a session, and
its token is accepted at once. -/
theorem login_answers_from_history_sample :
    (∀ m ∈ sampleEnrolment, m.step.ByService) ∧
    (∀ id email, ∃ token, Token.issue (sampleWorld (Setup.sample.withLifetime 30)).now
      Setup.sample.identity.secret 30 id email = .ok token) ∧
    ∃ session m expiresAt, (Move.record (Setup.sample.withLifetime 30)
        ⟨.login sampleCredentials, {}⟩ (sampleWorld (Setup.sample.withLifetime 30))).answer =
          .ok (.session session) ∧
      ∀ room, Token.read room 0 Setup.sample.identity.secret session.token =
        .ok ⟨m, "ann@b.co", expiresAt⟩ := by
  have hissue := sample_issue 30 (by decide)
  have h := login_answers_from_history (Setup.sample.withLifetime 30) 0 sampleSalt {}
    sampleEnrolment sample_byService sampleCredentials hissue
  obtain ⟨m, hm, hemail, hpassword⟩ := sample_member (Setup.sample.withLifetime 30)
  obtain ⟨session, hok⟩ := h.own m hm hemail hpassword
  obtain ⟨m', -, -, expiresAt, hemail', -, -, -, -, hread⟩ := h.session session hok
  have hnow := hread (by decide)
  have hann : normalEmail sampleCredentials.email = ("ann@b.co" : LooseText) := by decide +kernel
  rw [show m'.email = "ann@b.co" from congrArg LooseText.chars (hemail'.symm.trans hann)] at hnow
  refine ⟨sample_byService, hissue, session, m'.id, expiresAt, hok, ?_⟩
  rw [← sampleWorld_now (Setup.sample.withLifetime 30)]
  exact hnow

/-- With tokens that live for no time, the same credentials get a session too, but its token has
expired already. -/
theorem login_token_expired_at_once :
    (∀ m ∈ sampleEnrolment, m.step.ByService) ∧
    (∀ id email, ∃ token, Token.issue (sampleWorld (Setup.sample.withLifetime 0)).now
      Setup.sample.identity.secret 0 id email = .ok token) ∧
    ∃ session, (Move.record (Setup.sample.withLifetime 0) ⟨.login sampleCredentials, {}⟩
        (sampleWorld (Setup.sample.withLifetime 0))).answer = .ok (.session session) ∧
      ∀ room, Token.read room 0 Setup.sample.identity.secret session.token = .error .expired := by
  have hissue := sample_issue 0 (by decide)
  have hagree : Agree (sampleHistory (Setup.sample.withLifetime 0))
      (sampleWorld (Setup.sample.withLifetime 0)).table :=
    members_agree _ 0 sampleSalt {} sample_byService
  have h := hagree.login_answers (Setup.sample.withLifetime 0) sampleCredentials hissue
  obtain ⟨m, hm, hemail, hpassword⟩ := sample_member (Setup.sample.withLifetime 0)
  obtain ⟨session, hok⟩ := h.own m hm hemail hpassword
  obtain ⟨m', -, -, expiresAt, -, -, -, -, hread, -⟩ := h.session session hok
  refine ⟨sample_byService, hissue, session, hok, fun room => ?_⟩
  rw [sampleWorld_now] at hread
  exact (hread room 0 (by decide)).trans (if_neg (by decide))

end Accounts
