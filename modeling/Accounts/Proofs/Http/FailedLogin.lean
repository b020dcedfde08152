import Accounts.Proofs.Cache.Outcome
import Accounts.Proofs.Http.Calls
import Accounts.Proofs.Password.Salt
import Accounts.Proofs.Program.Performs
import Accounts.Proofs.Service.Login
import Accounts.Proofs.Service.Revision
import Accounts.Proofs.World.Settled

/-!
# Failed logins look alike

A login runs the same statements in every world: none when its input is not accepted, else one
look-up.  When it fails, while tokens can be issued, the error is determined by the input as well, and
so is the response over HTTP.  So nobody can tell from a failure which emails there are:

    a broken password          ->  an encoding error, past every tag
    rules are broken           ->  invalid input, with these rules
    unknown email              ->  bad credentials
    a hash without use         ->  bad credentials
    another password           ->  bad credentials
-/

namespace Accounts

open Accounts.Action
open Accounts.Request (Within)

variable {α : Type} {setup : Setup} {config : Identity.Config} {c : Credentials} {w : World}

/-! ## What a login runs -/

/-- The statements of a move, in their order. -/
def Record.statements (x : Record) : List Store.Statement := x.exchanges.filterMap Exchange.statement?

/-- The commands of a move, in their order. -/
def Record.commands (x : Record) : List Cache.Command := x.exchanges.filterMap Exchange.command?

/-- The statements of a login: a look-up, unless the input is not accepted. -/
def Credentials.statements (c : Credentials) : List Store.Statement :=
  match prepare () c.violations with
  | .ok _ => [.findByEmail (normalEmail c.email)]
  | .error _ => []

namespace Identity

theorem performs_operation {name : String} {a : Action α} {ss : List Store.Statement}
    (ha : a.Performs ss) : (operation name a).Performs ss := by
  refine ha.tryCatch fun e => performs_of_asks ?_
  split
  · exact asks_throw _
  · split
    · exact (asks_log trivial).bind fun _ => asks_throw _
    · exact asks_throw _
  · exact asks_throw _

/-- What a login does with the account that was found. -/
def answered (config : Config) (c : Credentials) : Option Account → Action Session
  | none => fail .badCredentials
  | some account => entered config c account

theorem decided_of_valid (config : Config) (h : prepare () c.violations = .ok ()) :
    decided config c = Store.findByEmail (normalEmail c.email) >>= answered config c := by
  unfold decided
  rw [h]
  show Store.findByEmail (normalEmail c.email) >>= _ = _
  congr 1

theorem decided_of_fault (config : Config) {fault : InputFault}
    (h : prepare () c.violations = .error fault) : decided config c = throw (inputError fault) := by
  unfold decided
  rw [h]
  cases fault <;> rfl

theorem performs_answered (config : Config) (c : Credentials) (found : Option Account) :
    (answered config c found).Performs [] := by
  refine performs_of_asks ?_
  cases found with
  | none => exact asks_fail _
  | some account =>
    exact (asks_checkPassword _ _).bind fun _ => (asks_issueToken _ _ _).bind fun _ => asks_pure _

theorem performs_decided (config : Config) (c : Credentials) :
    (decided config c).Performs c.statements := by
  unfold Credentials.statements
  cases hprepare : prepare () c.violations with
  | ok =>
    have hfind : (Store.findByEmail (normalEmail c.email)).Performs
        [.findByEmail (normalEmail c.email)] :=
      (performs_query _).bind fun _ => performs_of_asks (asks_pure _)
    rw [decided_of_valid config hprepare]
    exact hfind.bind (performs_answered config c)
  | error fault =>
    rw [decided_of_fault config hprepare]
    exact performs_of_asks (asks_throw _)

/-- A login runs its look-up, or nothing when its input is not accepted, whatever the world
answers. -/
theorem performs_login (config : Config) (c : Credentials) :
    (login config c).Performs c.statements := by
  rw [login_eq]
  exact (performs_operation (performs_decided config c)).bind fun session =>
    performs_of_asks ((asks_log trivial).bind fun _ => asks_pure _)

/-! ## How a login fails -/

/-- The error of a login that does not succeed. -/
def loginError (c : Credentials) : Error :=
  match prepare () c.violations with
  | .ok _ => .failure { cause := .badCredentials, operation := some "identity.login" }
  | .error (.invalid violations) =>
    .failure { cause := .invalidInput violations, operation := some "identity.login" }
  | .error (.encoding fault) => .encoding fault

theorem login_of_cause {cause : Cause}
    (h : ((decided config c).run w).1 = .error (.failure { cause := cause })) :
    ((login config c).run w).1 =
      .error (.failure { cause := cause, operation := some "identity.login" }) := by
  rw [login_eq]
  exact answer_bind_error _ (operation_answer_failure "identity.login" h)

/-- A login whose input is not accepted fails with what is wrong with it. -/
theorem login_of_fault (w : World) (config : Config) {fault : InputFault}
    (h : prepare () c.violations = .error fault) :
    ((login config c).run w).1 = .error (loginError c) := by
  unfold loginError
  rw [h]
  cases fault with
  | invalid violations =>
    refine login_of_cause ?_
    rw [decided_of_fault config h]
    rfl
  | encoding fault =>
    rw [login_eq, admitted, decided_of_fault config h]
    rfl

/-- An account that was found is refused for its password, or gets a token if one can be issued. -/
theorem answered_cases (w : World) (config : Config) (c : Credentials) (row : Store.Row)
    (hissue : ∃ token, Token.issue w.now config.secret config.tokenMinutes row.profile.id
      row.profile.email = .ok token) :
    (∃ session w', (answered config c (some row.secret)).run w = (.ok session, w')) ∨
      ((answered config c (some row.secret)).run w).1 =
        .error (.failure { cause := .badCredentials }) := by
  have hcheck := run_checkPassword row.secret (c.password.getD "") w
  show (∃ session w', (entered config c row.secret).run w = _) ∨ _
  split at hcheck
  · obtain ⟨token, htoken⟩ := hissue
    have hfound : Token.issue w.now config.secret config.tokenMinutes row.secret.sanitized.id
        row.secret.sanitized.email = .ok token := htoken
    have hissued := issueToken_run (w := { w with events := w.events ++
      (Password.verifyLoose row.secret.password (c.password.getD "")).events }) "identity.login" hfound
    exact .inl ⟨_, _, (run_bind_ok _ hcheck).trans (run_bind_ok _ hissued)⟩
  · exact .inr (answer_bind_error _ (congrArg Prod.fst hcheck))

/-- Where tokens can be issued, a login succeeds or fails as its input has it. -/
theorem login_succeeds_or_fails (config : Config) (c : Credentials) (hs : w.Sound)
    (hissue : ∀ row ∈ w.table, ∃ token, Token.issue w.now config.secret config.tokenMinutes
      row.profile.id row.profile.email = .ok token) :
    (∃ session, ((login config c).run w).1 = .ok session) ∨
      ((login config c).run w).1 = .error (loginError c) := by
  cases hprepare : prepare () c.violations with
  | error fault => exact .inr (login_of_fault w config hprepare)
  | ok =>
    unfold loginError
    rw [hprepare]
    have hvalid := (prepare_eq_ok hprepare).2
    have hfind := findByEmail_run hs (Credentials.lookUp_of_valid (t := w.table) hvalid rfl)
    have hdecided : (decided config c).run w = (answered config c
        ((w.table.findEmail? (normalEmail c.email).chars).map Store.Row.secret)).run
          (w.tried (.findByEmail (normalEmail c.email))) := by
      rw [decided_of_valid config hprepare]
      exact run_bind_ok _ hfind
    cases hrow : w.table.findEmail? (normalEmail c.email).chars with
    | none =>
      refine .inr (login_of_cause ?_)
      rw [hdecided, hrow]
      rfl
    | some row =>
      -- a hash without use and another password are refused alike
      rw [hrow] at hdecided
      rcases answered_cases (w.tried (.findByEmail (normalEmail c.email))) config c row
        (hissue row (Store.Table.mem_of_findEmail? hrow)) with ⟨session, w', hok⟩ | hrefused
      · exact .inl ⟨session, login_of_ok (hdecided.trans hok)⟩
      · refine .inr (login_of_cause ?_)
        rw [hdecided]
        exact hrefused

end Identity

/-! ## What a login leaves -/

theorem Identity.run_login_settled (config : Config) (c : Credentials) (w : World) :
    ((login config c).run w).2.settled = w.settled := by
  refine Asks.run_settled ((asks_login config c).mono (Within.mono (fun s hs => ?_) fun _ h => h)) w
  rw [hs]
  trivial

/-! ## Steps -/

open Http

/-- The steps that log in with credentials: the call of the service, and requests for it. -/
inductive Step.LogsIn (setup : Setup) (c : Credentials) : Step → Prop where
  | call : LogsIn setup c (.login c)
  | http {r : Http.Request} (path : r.At .login [])
      (body : r.received setup.site.room Input.credentials = .ok c) : LogsIn setup c (.http r)

/-- What a step answers when the login with credentials fails that it stands for. -/
def Step.refusal (setup : Setup) (c : Credentials) : Step → Except Error Answer
  | .http r => .ok (.response
      (setup.site.responseOf r (.error (Refusal.ofError (Identity.loginError c)))))
  | _ => .error (Identity.loginError c)

theorem Http.performs_call {a : Action α} {ss : List Store.Statement} (ha : a.Performs ss) :
    Program.Performs ss (ExceptT.run (Handler.call a)) := by
  refine Program.Performs.bind_nil ha fun result => ?_
  cases result with
  | ok x => exact .done _
  | error e => exact .done _

theorem Http.performs_serve {site : Site} {r : Http.Request} {ss : List Store.Statement}
    (h : Program.Performs ss (ExceptT.run (respond site r)))
    (hq : questionResponse? site.origins r = none) : Program.Performs ss (serve site r) := by
  unfold serve
  rw [hq]
  refine Program.Performs.bind_nil h fun result => ?_
  refine Program.Performs.bind_nil ?_ fun _ => .done _
  unfold logRefusal
  split
  · exact .done _
  · split
    · exact .quiet trivial fun _ => .done _
    · exact .done _

theorem Http.performs_respond_login (site : Site) {r : Http.Request} (path : r.At .login [])
    (body : r.received site.room Input.credentials = .ok c) :
    Program.Performs c.statements (ExceptT.run (respond site r)) := by
  have hhandle : handle site r "" .login =
      Handler.call (Identity.login site.identity c) >>= site.grant 200 := by
    have hread : receive site.room Input.credentials r = pure c := by
      rw [receive_eq, body]
      rfl
    show receive site.room Input.credentials r >>= (fun c =>
      Handler.call (Identity.login site.identity c) >>= site.grant 200) = _
    rw [hread, pure_bind]
  unfold respond
  rw [(destination_of_path rfl path).2]
  dsimp only
  rw [hhandle]
  exact .except_bind (performs_call (Identity.performs_login site.identity c)) fun session =>
    .of_asks (asks_withCookie _ _)

/-- Every step that logs in runs the statements of the login, and no command. -/
theorem Step.LogsIn.performs {step : Step} (h : step.LogsIn setup c) (w : World) :
    (Move.record setup ⟨step, {}⟩ w).statements = c.statements ∧
      (Move.record setup ⟨step, {}⟩ w).commands = [] := by
  unfold Record.statements Record.commands
  rw [Move.record_exchanges]
  cases h with
  | call =>
    have hlogin := Identity.performs_login setup.identity c
    have htrace : (Step.login c).trace setup (w.facing {}) =
        (Identity.login setup.identity c).trace (w.facing {}) := trace_bind_pure _ Answer.session _
    rw [htrace]
    exact ⟨hlogin.trace_statements _, hlogin.trace_commands _⟩
  | @http r path body =>
    have hstands : r.StandsFor setup.site w.now (.login c) := .login path body
    have hserve := performs_serve (performs_respond_login setup.site path body) hstands.question
    rw [Step.trace_http]
    exact ⟨hserve.trace_statements _, hserve.trace_commands _⟩

/-- Every step that logs in leaves the world as it was. -/
theorem Step.LogsIn.after {step : Step} (h : step.LogsIn setup c) (w : World) :
    (Move.record setup ⟨step, {}⟩ w).after = w.settled := by
  have hlogin : (Move.record setup ⟨.login c, {}⟩ w).after = w.settled := by
    have hfacing : (w.facing {}).settled = w.settled := rfl
    rw [Move.record_after, Step.run_login]
    dsimp only
    rw [Identity.run_login_settled, hfacing]
  cases h with
  | call => exact hlogin
  | @http r path body =>
    rw [(record_of_standsFor (.login path body) {}).1, hlogin]

/-- A step whose login fails answers with the refusal. -/
theorem Step.LogsIn.answer {step : Step} (h : step.LogsIn setup c)
    (hfails : (Move.record setup ⟨.login c, {}⟩ w).answer = .error (Identity.loginError c)) :
    (Move.record setup ⟨step, {}⟩ w).answer = step.refusal setup c := by
  cases h with
  | call => exact hfails
  | @http r path body =>
    rw [(record_of_standsFor (.login path body) {}).2, hfails]
    rfl

/-! ## Failed logins -/

/-- Tokens can be issued for the accounts of a world. -/
def World.Issues (w : World) (setup : Setup) : Prop :=
  ∀ row ∈ w.table, ∃ token, Token.issue w.now setup.identity.secret setup.identity.tokenMinutes
    row.profile.id row.profile.email = .ok token

/-- The login with credentials does not succeed. -/
def World.Refuses (w : World) (setup : Setup) (c : Credentials) : Prop :=
  ∀ session, (Move.record setup ⟨.login c, {}⟩ w).answer ≠ .ok (.session session)

theorem World.Refuses.answer (h : w.Refuses setup c) (hissue : w.Issues setup) :
    (Move.record setup ⟨.login c, {}⟩ w).answer = .error (Identity.loginError c) := by
  have hanswer : (Move.record setup ⟨.login c, {}⟩ w).answer =
      ((Identity.login setup.identity c).run (w.facing {})).1.map .session := by
    rw [Move.record_answer, Step.run_login]
  rcases Identity.login_succeeds_or_fails setup.identity c w.sound_of_no_faults hissue with
    ⟨session, hok⟩ | herror
  · rw [hok] at hanswer
    exact absurd hanswer (h session)
  · rw [hanswer, herror]
    rfl

/-- **Failed logins look alike.**  In any two worlds in which tokens can be issued and the login with
the same credentials fails, every step that makes it gets one and the same answer: the call of the
service the error of the credentials, and a request for it one response.  It runs the same
statements and no command, and leaves either world, table and keys and all, as it was. -/
theorem failed_logins_look_alike (setup : Setup) (c : Credentials) (step : Step) (w w' : World)
    (hissue : w.Issues setup) (hissue' : w'.Issues setup) (hfails : w.Refuses setup c)
    (hfails' : w'.Refuses setup c) (hstep : step.LogsIn setup c) :
    let x := Move.record setup ⟨step, {}⟩ w
    let y := Move.record setup ⟨step, {}⟩ w'
    x.answer = step.refusal setup c ∧ y.answer = step.refusal setup c ∧
      x.statements = y.statements ∧ x.commands = [] ∧ y.commands = [] ∧
      x.after = w.settled ∧ y.after = w'.settled := by
  obtain ⟨hstatements, hcommands⟩ := hstep.performs w
  obtain ⟨hstatements', hcommands'⟩ := hstep.performs w'
  exact ⟨hstep.answer (hfails.answer hissue), hstep.answer (hfails'.answer hissue'),
    hstatements.trans hstatements'.symm, hcommands, hcommands', hstep.after w, hstep.after w'⟩

/-- A login is refused when no row with the email accepts the password. -/
theorem World.refuses_of_rejected (setup : Setup) (hissue : ∀ id email, ∃ token,
      Token.issue w.now setup.identity.secret setup.identity.tokenMinutes id email = .ok token)
    (h : ∀ row, w.table.findEmail? (normalEmail c.email).chars = some row →
      Password.verifyLoose (some row.hash) (c.password.getD "") ≠ .accepted) : w.Refuses setup c := by
  intro session hanswer
  rw [Move.record_answer, Step.run_login] at hanswer
  rcases Identity.login_cases (c := c) w.sound_of_no_faults hissue with
    ⟨row, token, -, hrow, haccepted, -⟩ | ⟨⟨e, herror⟩, -⟩
  · exact h row hrow haccepted
  · dsimp only at hanswer
    rw [herror] at hanswer
    cases hanswer

/-- A row under the email of the sample credentials whose hash is of no use. -/
def sampleRow : Store.Row := ⟨sampleAccount.toProfile, "no hash"⟩

/-- A request for a login with the sample credentials. -/
def sampleEntrance : Http.Request where
  method := "POST"
  target := ⟨"/auth/login".toList, []⟩
  headers := [("Content-Type", "application/json")]
  body := "\x7b\"email\": \"ANN@b.co\", \"password\": \"secret!\"\x7d"

/-- An empty table and one with a row under the email. -/
theorem failed_logins_look_alike_sample :
    let w := World.fresh 0 sampleSalt
    let w' := { w with table := [sampleRow] }
    let x := Move.record .sample ⟨.http sampleEntrance, {}⟩ w
    let y := Move.record .sample ⟨.http sampleEntrance, {}⟩ w'
    w.Issues .sample ∧ w'.Issues .sample ∧ w.Refuses .sample sampleCredentials ∧
      w'.Refuses .sample sampleCredentials ∧
      (Step.http sampleEntrance).LogsIn .sample sampleCredentials ∧
      x.answer = (Step.http sampleEntrance).refusal .sample sampleCredentials ∧
      y.answer = (Step.http sampleEntrance).refusal .sample sampleCredentials ∧
      x.statements = y.statements ∧ x.commands = [] ∧ y.commands = [] ∧
      x.after = w.settled ∧ y.after = w'.settled := by
  have hkey : Token.keyFault? Setup.sample.identity.secret = none := by decide +kernel
  have hissue (id : Uuid) (email : String) : ∃ token, Token.issue 0 Setup.sample.identity.secret
      Setup.sample.identity.tokenMinutes id email = .ok token :=
    Token.issue_of_expiry (show Token.expiry 0 30 = .ok 1800 from rfl) hkey id email
  have hempty : (World.fresh 0 sampleSalt).Refuses .sample sampleCredentials :=
    World.refuses_of_rejected .sample hissue fun row hrow => nomatch hrow
  have hrow : { World.fresh 0 sampleSalt with table := [sampleRow] }.Refuses .sample
      sampleCredentials := by
    refine World.refuses_of_rejected .sample hissue fun row hrow => ?_
    rw [List.mem_singleton.1 (Store.Table.mem_of_findEmail? hrow)]
    decide +kernel
  have hstep : (Step.http sampleEntrance).LogsIn .sample sampleCredentials :=
    .http ⟨rfl, rfl⟩ (by decide +kernel)
  exact ⟨fun row _ => hissue _ _, fun row _ => hissue _ _, hempty, hrow, hstep,
    failed_logins_look_alike .sample sampleCredentials (.http sampleEntrance) _ _
      (fun row _ => hissue _ _) (fun row _ => hissue _ _) hempty hrow hstep⟩

end Accounts
