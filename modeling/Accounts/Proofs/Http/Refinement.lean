import Accounts.Proofs.Http.Calls
import Accounts.Proofs.Http.Shielding
import Accounts.Proofs.Service.Login
import Accounts.Proofs.Service.Rows

/-!
# The interface refines the service

A request that stands for a call of the service does to the world what the call does, whatever faults
are met.  Its response shows what the call answers, without the password, and of a failure no more
than its kind, its message and the rules that were broken:

    session           -> 201 or 200, the account and the token, the token in the cookie
    account           -> 200, the account
    nothing           -> 200, the identifier
    failure           -> the status of its kind
    time is over      -> 504
-/

namespace Accounts

/-- A JSON object without the members of a name. -/
def Json.without (name : String) : Json → Json
  | .obj members => .obj (members.filter fun member => member.1 ≠ name)
  | j => j

/-- The profile of an account is the account without its password. -/
theorem Account.json_toProfile (a : Account) : a.toProfile.json = a.json.without "password" := by
  simp [Account.json, Json.without, Profile.json, Profile.members]

/-- What JSON shows of an account: every field under its name, and no password. -/
structure Account.ShownBy (a : Account) (j : Json) : Prop where
  id : j.get? "id" = some (.str a.id.text)
  email : j.get? "email" = some (.str a.email)
  texts : ∀ field : ProfileText, j.get? field.name = some (.ofText? (a.toProfile.text field))
  postcode : j.get? "postcode" = some (.ofInt? a.postcode)
  birthday : j.get? "birthday" = some (.ofDate? a.birthday)
  created : j.get? "created_at" = some (.ofDateTime a.createdAt)
  updated : j.get? "updated_at" = some (.ofDateTime a.updatedAt)
  login : j.get? "login_date" = some (.ofDateTime a.loginDate)
  password : j.get? "password" = none

/-- Without its password, the JSON of an account still shows everything else. -/
theorem Account.shownBy_without_password (a : Account) : a.ShownBy (a.json.without "password") := by
  rw [← json_toProfile]
  constructor
  case texts => exact fun field => by cases field <;> rfl
  all_goals rfl

/-- The status of a call that is answered. -/
def Step.successStatus : Step → Nat
  | .register _ => 201
  | _ => 200

namespace Http

variable {site : Site} {r : Request} {w : World} {step : Step}

/-! ## Responses -/

/-- The attributes of a cookie, behind its value. -/
def Cookie.attributes (c : Cookie) : String :=
  (if c.httpOnly then "; HttpOnly" else "") ++ "; Max-Age=" ++ Number.intText c.maxAge ++ "; Path=/"
    ++ "; SameSite=lax" ++ (if c.secure then "; Secure" else "")

theorem Cookie.issue?_of_isNamed {c : Cookie} (h : c.isNamed = true) (value : String) :
    c.issue? value = some (c.name ++ "=" ++ value ++ c.attributes) := by
  unfold issue? attributes
  rw [if_pos h]
  simp [String.append_assoc]

/-- The response for a failure, made of its kind, its message and the rules that were broken. -/
def failureResponse (kind : Cause.Kind) (message : String) (violations : Option (List Violation)) :
    Response :=
  (Response.ofJson (kindStatus kind) (.obj (("detail", .str message)
    :: (violations.map fun vs => ("violations", Violation.listJson vs)).toList))).withFields
    (if kind = .unauthorized then [("www-authenticate", "Bearer")] else [])

theorem response_failed (f : Failure) : Refusal.response (.failed f) =
    failureResponse f.cause.kind f.message f.cause.violations? := by
  have hfields : Refusal.fields (.failed f) =
      if f.cause.kind = .unauthorized then [("www-authenticate", "Bearer")] else [] := by
    show (if kindStatus f.cause.kind = 401 then _ else _) = _
    cases f.cause.kind <;> rfl
  unfold failureResponse
  rw [← hfields]
  rfl

/-- What the response to a request shows of the outcome of the call that it stands for. -/
structure Shows (site : Site) (r : Request) (step : Step) (outcome : Except Error Answer)
    (response : Response) : Prop where
  /-- Whatever the call answers is a success. -/
  success : ∀ answer, outcome = .ok answer → response.status = step.successStatus
  /-- A session is shown without the password; its token is in the body and in the cookie. -/
  session : ∀ s, outcome = .ok (.session s) → response.body = .json
      (.obj [("user", s.account.json.without "password"), ("token", .str s.token)]) ∧
    fieldValues "set-cookie" response.headers =
      [site.cookie.name ++ "=" ++ s.token ++ site.cookie.attributes]
  /-- An account is shown without the password. -/
  account : ∀ account, outcome = .ok (.account (some account)) →
    response.body = .json (account.json.without "password") ∧
    fieldValues "set-cookie" response.headers = []
  /-- A deletion shows whose account is gone. -/
  deletion : ∀ id, step = .delete id → outcome = .ok .nothing →
    response.body = .json (.obj [(id.text, .str "Deleted")])
  /-- A failure shows its kind, its message and the rules that were broken, and sets no cookie. -/
  failure : ∀ f, outcome = .error (.failure f) →
    response = site.dress r (failureResponse f.cause.kind f.message f.cause.violations?) ∧
    fieldValues "set-cookie" response.headers = []
  /-- When the time is over, that is all that is shown. -/
  timeout : outcome = .error (.store .timedOut) → response.status = 504 ∧
    response.body = .json (.obj [("detail", .str "Request timed out")]) ∧
    fieldValues "set-cookie" response.headers = []

/-- Dressing a response sets no cookie and takes none away. -/
theorem fieldValues_dress_cookie (site : Site) (r : Request) (response : Response) :
    fieldValues "set-cookie" (site.dress r response).headers =
      fieldValues "set-cookie" response.headers := by
  have hother : ∀ name ∈ originNames, name ∉ ["set-cookie"] := by decide
  have horigin : fieldValues "set-cookie" (originFields site.origins r) = [] :=
    (avoids_originFields hother site.origins r).fieldValues (List.mem_singleton_self _)
  show fieldValues "set-cookie" ((response.headers ++ securityFields) ++ _) = _
  rw [fieldValues_append, fieldValues_append, horigin, List.append_nil]
  exact List.append_nil _

theorem outcome_session {now : Calendar.Instant} (hnamed : site.cookie.isNamed = true)
    (step : Step) (s : Session) : site.outcome now step (.ok (.session s)) =
      .ok ((Response.ofJson step.successStatus s.view.json).withFields
        [("set-cookie", site.cookie.name ++ "=" ++ s.token ++ site.cookie.attributes)]) := by
  have hwritten : site.outcome now step (.ok (.session s)) =
      withField (site.cookie.issue? s.token) (Response.ofJson step.successStatus s.view.json) := by
    cases step <;> rfl
  rw [hwritten, Cookie.issue?_of_isNamed hnamed]
  rfl

theorem outcome_account {now : Calendar.Instant} (step : Step) (account : Account) :
    site.outcome now step (.ok (.account (some account))) = .ok (profileResponse account) := by
  cases step <;> rfl

theorem outcome_deletion (hnamed : site.cookie.isNamed = true) (now : Calendar.Instant)
    (id : Uuid) : ∃ field, site.outcome now (.delete id) (.ok .nothing) =
      .ok ((Response.ofJson 200 (.obj [(id.text, .str "Deleted")])).withFields
        [("set-cookie", field)]) := by
  have hclear : site.outcome now (.delete id) (.ok .nothing) = withField (site.cookie.clear? now)
      (Response.ofJson 200 (.obj [(id.text, .str "Deleted")])) := rfl
  unfold Cookie.clear? at hclear
  rw [if_pos hnamed] at hclear
  exact ⟨_, hclear⟩

theorem shows_responseOf (hnamed : site.cookie.isNamed = true) (r : Request)
    (now : Calendar.Instant) {outcome : Except Error Answer}
    (hanswers : ∀ answer, outcome = .ok answer → step.Answers answer) :
    Shows site r step outcome (site.responseOf r (site.outcome now step outcome)) := by
  constructor
  case success =>
    rintro answer rfl
    cases hanswers answer rfl with
    | register | login =>
      rw [outcome_session hnamed]
      rfl
    | find | update => rfl
    | delete id =>
      obtain ⟨field, h⟩ := outcome_deletion hnamed now id
      rw [h]
      rfl
  case session =>
    rintro s rfl
    rw [outcome_session hnamed]
    refine ⟨?_, fieldValues_dress_cookie site r _⟩
    show Body.json (.obj [("user", s.account.toProfile.json), ("token", .str s.token)]) = _
    rw [Account.json_toProfile]
  case account =>
    rintro account rfl
    rw [outcome_account]
    refine ⟨?_, fieldValues_dress_cookie site r _⟩
    show Body.json account.toProfile.json = _
    rw [Account.json_toProfile]
  case deletion =>
    rintro id rfl rfl
    obtain ⟨field, h⟩ := outcome_deletion hnamed now id
    rw [h]
    rfl
  case failure =>
    rintro f rfl
    have hresponse : site.responseOf r (site.outcome now step (.error (.failure f))) =
        site.dress r (failureResponse f.cause.kind f.message f.cause.violations?) := by
      rw [← response_failed]
      rfl
    refine ⟨hresponse, ?_⟩
    rw [hresponse, fieldValues_dress_cookie]
    unfold failureResponse
    split <;> rfl
  case timeout =>
    rintro rfl
    exact ⟨rfl, rfl, fieldValues_dress_cookie site r _⟩

/-- **The interface refines the service.**  Whatever faults are met, a request leaves the world as
the call does that it stands for, and its response shows the outcome of the call and nothing more.
-/
theorem http_refines_service (setup : Setup) (faults : Faults) (r : Request) (step : Step)
    (w : World) (hnamed : setup.site.cookie.isNamed = true)
    (hcall : r.StandsFor setup.site w.now step) :
    let x := Move.record setup ⟨.http r, faults⟩ w
    let y := Move.record setup ⟨step, faults⟩ w
    x.after = y.after ∧ ∃ response, x.answer = .ok (.response response) ∧
      Shows setup.site r step y.answer response := by
  obtain ⟨hafter, hanswer⟩ := record_of_standsFor hcall faults
  exact ⟨hafter, _, hanswer, shows_responseOf hnamed r w.now fun answer => hcall.isCall.answers⟩

/-- A setup with the cookie that there is without other settings. -/
def sampleSetup : Setup :=
  { Setup.sample with
    site := { Setup.sample.site with cookie := ⟨"jwt-token", 3600, false, true⟩ } }

/-- A request for a registration. -/
def sampleArrival : Request where
  method := "POST"
  target := ⟨"/auth/register".toList, []⟩
  headers := [("Content-Type", "application/json")]
  body := "\x7b\"email\": \" Ann@b.co \", \"password\": \"secret!\"\x7d"

theorem http_refines_service_sampleArrival :
    sampleSetup.site.cookie.isNamed = true ∧
    sampleArrival.StandsFor sampleSetup.site 0 (.register sampleRegistration) ∧
    (Move.record sampleSetup ⟨.http sampleArrival, {}⟩ (World.fresh 0 sampleSalt)).after =
      (Move.record sampleSetup ⟨.register sampleRegistration, {}⟩ (World.fresh 0 sampleSalt)).after ∧
    ∃ response, (Move.record sampleSetup ⟨.http sampleArrival, {}⟩
        (World.fresh 0 sampleSalt)).answer = .ok (.response response) ∧
      Shows sampleSetup.site sampleArrival (.register sampleRegistration)
        (Move.record sampleSetup ⟨.register sampleRegistration, {}⟩ (World.fresh 0 sampleSalt)).answer
        response := by
  have hnamed : sampleSetup.site.cookie.isNamed = true := by decide +kernel
  have hcall : sampleArrival.StandsFor sampleSetup.site 0 (.register sampleRegistration) :=
    .register ⟨rfl, rfl⟩ (by decide +kernel)
  exact ⟨hnamed, hcall, http_refines_service sampleSetup {} sampleArrival
    (.register sampleRegistration) (World.fresh 0 sampleSalt) hnamed hcall⟩

end Http

end Accounts
