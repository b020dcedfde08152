import Accounts.Proofs.Http.Ownership
import Accounts.Proofs.Http.Secrecy

/-!
# Requests as calls of the service

A request with the method and the path of an endpoint, whose input can be read and whose token is
valid, stands for one call of the service.  Answering it makes that call and nothing else; any other
request but a sign of life makes none.

    request stands for a step  ->  respond runs the step, and writes its outcome as a response
    otherwise                  ->  respond refuses, or points to another place
-/

namespace Accounts.Http

open Handler

variable {α β : Type} {site : Site} {r : Request} {w : World} {step : Step} {e : Endpoint}
  {segment : List Char} {id : Uuid}

/-! ## Paths -/

/-- A request has the method of an endpoint and a path of it, with what the path gives as the
identifier. -/
structure Request.At (r : Request) (e : Endpoint) (segment : List Char) : Prop where
  method : e.method = r.method
  path : e.argument? r.target.path = some segment

/-- A path that is given as a whole. -/
theorem argument?_eq_some_of_path {p : String} {path : List Char} (hp : e.path? = some p)
    (h : e.argument? path = some segment) :
    segment = [] ∧ (path = p.toList ∨ path = p.toList ++ ['\n']) := by
  unfold Endpoint.argument? at h
  rw [hp] at h
  dsimp only at h
  split at h
  · exact ⟨(Option.some.inj h).symm, ‹_›⟩
  · cases h

/-- A request with the one path of an endpoint leads there, although other endpoints may have the
path too. -/
theorem destination_of_path {p : String} (hp : e.path? = some p) (h : r.At e segment) :
    segment = [] ∧ r.destination = .endpoint e "" := by
  obtain ⟨hsegment, hpath⟩ := argument?_eq_some_of_path hp h.path
  refine ⟨hsegment, ?_⟩
  unfold Request.destination Request.endpoint
  cases e with
  | health | register | login | me =>
    cases hp
    rcases hpath with hpath | hpath
    · rw [hpath, ← h.method]
      rfl
    · rw [hpath, ← h.method]
      rfl
  | find | update | delete => cases hp

/-- No endpoint with a path of its own takes the path of an account. -/
theorem path?_of_read (hsegment : Endpoint.segment? r.target.path = some segment)
    (hread : Uuid.read (String.ofList segment) = .ok id)
    (he : (e.argument? r.target.path).isSome) : e.path? = none := by
  cases hp : e.path? with
  | none => rfl
  | some p =>
    exfalso
    obtain ⟨argument, hargument⟩ := Option.isSome_iff_exists.1 he
    obtain ⟨-, hpath⟩ := argument?_eq_some_of_path hp hargument
    cases e with
    | health =>
      cases hp
      rcases hpath with hpath | hpath <;> rw [hpath] at hsegment <;> cases hsegment
    | register | login | me =>
      cases hp
      rcases hpath with hpath | hpath
      · rw [hpath] at hsegment
        cases hsegment
        cases hread
      · rw [hpath] at hsegment
        cases hsegment
        cases hread
    | find | update | delete => cases hp

theorem destination_of_account (h : r.At e segment) (hp : e.path? = none)
    (hread : Uuid.read (String.ofList segment) = .ok id) :
    r.destination = .endpoint e (String.ofList segment) := by
  have hsegment : Endpoint.segment? r.target.path = some segment := by
    have hpath := h.path
    unfold Endpoint.argument? at hpath
    rwa [hp] at hpath
  refine destination_of_unique (Page.ofPath?_of_segment? hsegment) h.method h.path
    fun e' hmethod hpath => ?_
  have hp' := path?_of_read hsegment hread hpath
  rw [← h.method] at hmethod
  -- among the endpoints with paths of accounts the method decides
  cases e <;> cases hp <;> cases e' <;> first | rfl | exact absurd hmethod (by decide) | cases hp'

/-! ## Calls -/

/-- The call of the service that a request is made for: its path is that of an endpoint, its body and
its identifier are read, and where a token is asked for it carries a valid one for the account. -/
inductive Request.StandsFor (site : Site) (now : Calendar.Instant) (r : Request) : Step → Prop where
  | register {registration : Registration} (path : r.At .register [])
      (body : r.received site.room Input.registration = .ok registration) :
      StandsFor site now r (.register registration)
  | login {credentials : Credentials} (path : r.At .login [])
      (body : r.received site.room Input.credentials = .ok credentials) :
      StandsFor site now r (.login credentials)
  | me {token : String} {claims : Token.Claims} (path : r.At .me [])
      (carries : r.Carries site.cookie.name token)
      (valid : Token.read site.room now site.identity.secret token = .ok claims) :
      StandsFor site now r (.find claims.accountId)
  | find {segment : List Char} {id : Uuid} (path : r.At .find segment)
      (read : Uuid.read (String.ofList segment) = .ok id) : StandsFor site now r (.find id)
  | update {id : Uuid} {details : Details} (method : r.method = "PUT")
      (authorized : site.Authorizes now r id)
      (body : r.received site.room Input.revision = .ok details) :
      StandsFor site now r (.update id details)
  | delete {id : Uuid} (method : r.method = "DELETE") (authorized : site.Authorizes now r id) :
      StandsFor site now r (.delete id)

/-- A response with a field for the cookie, or what is left when the cookie has no name. -/
def withField (field : Option String) (response : Response) : Except Refusal Response :=
  match field with
  | some field => .ok (response.withFields [("set-cookie", field)])
  | none => .error .unforeseen

/-- What the answer of a call becomes. -/
def Site.written (site : Site) (now : Calendar.Instant) : Step → Answer → Except Refusal Response
  | .register _, .session s =>
    withField (site.cookie.issue? s.token) (Response.ofJson 201 s.view.json)
  | _, .session s => withField (site.cookie.issue? s.token) (Response.ofJson 200 s.view.json)
  | .delete id, .nothing =>
    withField (site.cookie.clear? now) (Response.ofJson 200 (.obj [(id.text, .str "Deleted")]))
  | _, .account (some account) => .ok (profileResponse account)
  | _, _ => .error .unforeseen

/-- What the outcome of a call becomes. -/
def Site.outcome (site : Site) (now : Calendar.Instant) (step : Step) :
    Except Error Answer → Except Refusal Response
  | .ok answer => site.written now step answer
  | .error e => .error (Refusal.ofError e)

theorem run_withCookie (field : Option String) (response : Response) (w : World) :
    (withCookie field response).run w = (withField field response, w) := by
  cases field <;> rfl

theorem run_receive {room : Nat} {read : Json → Input.Checked α} {a : α}
    (h : r.received room read = .ok a) (w : World) : (receive room read r).run w = (.ok a, w) := by
  rw [receive_eq, h]
  rfl

theorem run_claims {room : Nat} {secret name token : String} {claims : Token.Claims}
    (hcarries : r.Carries name token) (hread : Token.read room w.now secret token = .ok claims) :
    (Http.claims room secret name r).run w = (.ok claims, w) := by
  unfold Http.claims
  rw [carries_iff.1 hcarries]
  dsimp only
  rw [run_bind, run_request]
  dsimp only
  rw [show (w.answer .clock).1 = w.now from rfl, hread]
  rfl

theorem readId_of_read {argument : String} (h : Uuid.read argument = .ok id) :
    readId argument = .ok id := by
  simp only [readId, Input.uuid, h]
  rfl

theorem received_eq_ok {room : Nat} {read : Json → Input.Checked α} {a : α}
    (h : r.received room read = .ok a) :
    ∃ payload, r.payload room = .ok payload ∧ payload.read read = .ok a := by
  unfold Request.received at h
  rcases hp : r.payload room with fault | payload
  · rw [hp] at h
    cases h
  · rw [hp] at h
    dsimp only at h
    rcases hread : payload.read read with ps | b
    · rw [hread] at h
      cases h
    · rw [hread] at h
      cases h
      exact ⟨payload, rfl, hread⟩

/-- What follows a call is made of its answer alone. -/
theorem run_call_bind (site : Site) (now : Calendar.Instant) (step : Step) (a : Action α)
    (answer : α → Answer) {f : α → Handler Response}
    (hf : ∀ x w', (a.run w).2 = w' → (f x).run w' = (site.written now step (answer x), w')) :
    (call a >>= f).run w = (site.outcome now step ((a.run w).1.map answer), (a.run w).2) := by
  rw [run_bind, run_call]
  rcases hrun : a.run w with ⟨e | x, w'⟩
  · rfl
  · exact hf x w' (by rw [hrun])

theorem run_grant (site : Site) (status : Nat) (s : Session) (w : World) :
    (site.grant status s).run w =
      (withField (site.cookie.issue? s.token) (Response.ofJson status s.view.json), w) :=
  run_withCookie _ _ w

/-- A change that is authorized leads to its endpoint, with the identifier of the account. -/
theorem destination_of_authorizes {now : Calendar.Instant} (h : site.Authorizes now r id)
    (hmethod : e.method = r.method) (hp : e = .update ∨ e = .delete) :
    ∃ argument, r.destination = .endpoint e argument ∧ Uuid.read argument = .ok id := by
  obtain ⟨segment, hnames, hread⟩ := h.named
  have hpath : Endpoint.segment? r.target.path = some segment :=
    segment?_eq_some_iff.2 ⟨hnames.path, hnames.nonempty, hnames.single⟩
  refine ⟨String.ofList segment, ?_, hread⟩
  rcases hp with rfl | rfl
  · exact destination_of_account ⟨hmethod, hpath⟩ rfl hread
  · exact destination_of_account ⟨hmethod, hpath⟩ rfl hread

theorem run_requireSelf {claims : Token.Claims} (h : claims.accountId = id) (w : World) :
    (requireSelf claims id).run w = (.ok (), w) := by
  unfold requireSelf
  rw [if_pos h]
  rfl

/-- A change of an account passes its checks and then makes its call. -/
theorem run_handle_update {argument : String} {details : Details}
    (hread : Uuid.read argument = .ok id) (hbody : r.received site.room Input.revision = .ok details)
    (hauthorized : site.Authorizes w.now r id) : (handle site r argument .update).run w =
      (call (Identity.update id details) >>= fun account => pure (profileResponse account)).run w := by
  obtain ⟨payload, hpayload, hdetails⟩ := received_eq_ok hbody
  obtain ⟨token, claims, hcarries, hvalid, hself⟩ := hauthorized.token
  have haccept : (accept Refusal.ofPayload (r.payload site.room)).run w = (.ok payload, w) := by
    rw [hpayload]
    rfl
  have hpair : (accept Refusal.ofProblems (Input.Checked.of Prod.mk |>.apply (readId argument)
      |>.apply (payload.read Input.revision))).run w = (.ok (id, details), w) := by
    rw [readId_of_read hread, hdetails]
    rfl
  refine (run_bind_ok _ haccept).trans ?_
  refine (run_bind_ok _ (run_claims hcarries hvalid)).trans ?_
  refine (run_bind_ok _ hpair).trans ?_
  exact run_bind_ok _ (run_requireSelf hself w)

theorem run_readId {argument : String} (hread : Uuid.read argument = .ok id) (w : World) :
    (accept Refusal.ofProblems (readId argument)).run w = (.ok id, w) := by
  rw [readId_of_read hread]
  rfl

/-- A deletion passes its checks, makes its call, and then clears the cookie. -/
theorem run_handle_delete {argument : String} (hread : Uuid.read argument = .ok id)
    (hauthorized : site.Authorizes w.now r id) : (handle site r argument .delete).run w =
      (call (Identity.delete id) >>= fun _ => request .clock >>= fun now =>
        withCookie (site.cookie.clear? now)
          (Response.ofJson 200 (.obj [(id.text, .str "Deleted")]))).run w := by
  obtain ⟨token, claims, hcarries, hvalid, hself⟩ := hauthorized.token
  refine (run_bind_ok _ (run_claims hcarries hvalid)).trans ?_
  refine (run_bind_ok _ (run_readId hread w)).trans ?_
  exact run_bind_ok _ (run_requireSelf hself w)

/-- Answering a request makes the call that it stands for, and nothing else. -/
theorem respond_of_standsFor {setup : Setup} (h : r.StandsFor setup.site w.now step) :
    (respond setup.site r).run w =
      (setup.site.outcome w.now step (step.run setup w).1, (step.run setup w).2) := by
  unfold respond
  cases h with
  | @register registration path body =>
    have hcall : (handle setup.site r "" .register).run w =
        (call (Identity.register setup.site.identity registration) >>= setup.site.grant 201).run w :=
      run_bind_ok _ (run_receive body w)
    rw [(destination_of_path rfl path).2, hcall, Step.run_register,
      run_call_bind setup.site w.now (.register registration) _ Answer.session]
    exact fun session w' _ => run_grant setup.site 201 session w'
  | @login credentials path body =>
    have hcall : (handle setup.site r "" .login).run w =
        (call (Identity.login setup.site.identity credentials) >>= setup.site.grant 200).run w :=
      run_bind_ok _ (run_receive body w)
    rw [(destination_of_path rfl path).2, hcall, Step.run_login,
      run_call_bind setup.site w.now (.login credentials) _ Answer.session]
    exact fun session w' _ => run_grant setup.site 200 session w'
  | @me token claims path carries valid =>
    have hcall : (handle setup.site r "" .me).run w =
        (call (Identity.find setup.site.identity claims.accountId) >>=
          fun account => pure (profileResponse account)).run w :=
      run_bind_ok _ (run_claims carries valid)
    rw [(destination_of_path rfl path).2, hcall, Step.run_find,
      run_call_bind setup.site w.now (.find claims.accountId) _
        fun account => Answer.account (some account)]
    exact fun account w' _ => rfl
  | @find segment id path read =>
    have hcall : (handle setup.site r (String.ofList segment) .find).run w =
        (call (Identity.find setup.site.identity id) >>=
          fun account => pure (profileResponse account)).run w :=
      run_bind_ok _ (run_readId read w)
    rw [destination_of_account path rfl read, hcall, Step.run_find,
      run_call_bind setup.site w.now (.find id) _ fun account => Answer.account (some account)]
    exact fun account w' _ => rfl
  | @update id details method authorized body =>
    obtain ⟨argument, hdestination, hread⟩ :=
      destination_of_authorizes authorized (e := .update) method.symm (.inl rfl)
    rw [hdestination, run_handle_update hread body authorized, Step.run_update,
      run_call_bind setup.site w.now (.update id details) _
        fun account => Answer.account (some account)]
    exact fun account w' _ => rfl
  | @delete id method authorized =>
    obtain ⟨argument, hdestination, hread⟩ :=
      destination_of_authorizes authorized (e := .delete) method.symm (.inr rfl)
    rw [hdestination, run_handle_delete hread authorized, Step.run_delete,
      run_call_bind setup.site w.now (.delete id) _ fun _ => Answer.nothing]
    intro _ w' hw'
    -- the clock has not moved since the token was looked at
    have hnow : w'.now = w.now := by
      rw [← hw']
      exact Action.run_now _ w
    rw [run_bind_ok _ (run_request .clock w'), run_withCookie]
    rw [show (w'.answer .clock).1 = w.now from hnow]
    rfl

theorem Request.StandsFor.isCall {now : Calendar.Instant} (h : r.StandsFor site now step) :
    step.IsCall := by
  cases h <;> trivial

theorem Request.StandsFor.method {now : Calendar.Instant} (h : r.StandsFor site now step) :
    r.method ∈ ["GET", "POST", "PUT", "DELETE"] := by
  cases h with
  | register path | login path | me path | find path =>
    rw [← path.method]
    decide
  | update method | delete method =>
    rw [method]
    decide

theorem Request.StandsFor.question {now : Calendar.Instant} (h : r.StandsFor site now step) :
    questionResponse? site.origins r = none := by
  refine questionResponse?_of_method (fun hmethod => ?_) _
  have hmem := h.method
  rw [hmethod] at hmem
  exact absurd hmem (by decide)

theorem Request.StandsFor.toMethod {now : Calendar.Instant} (h : r.StandsFor site now step)
    (response : Response) : response.toMethod r.method = response := by
  unfold Response.toMethod
  rw [if_neg]
  intro hmethod
  have hmem := h.method
  rw [hmethod] at hmem
  exact absurd hmem (by decide)

/-- A request does to the world what the call does that it stands for, and is answered with what
becomes of the outcome. -/
theorem record_of_standsFor {setup : Setup} (h : r.StandsFor setup.site w.now step)
    (faults : Faults) :
    (Move.record setup ⟨.http r, faults⟩ w).after = (Move.record setup ⟨step, faults⟩ w).after ∧
    (Move.record setup ⟨.http r, faults⟩ w).answer = .ok (.response (setup.site.responseOf r
      (setup.site.outcome w.now step (Move.record setup ⟨step, faults⟩ w).answer))) := by
  have hrespond := respond_of_standsFor (w := w.facing faults) h
  obtain ⟨events, hserve⟩ := run_serve h.question (w.facing faults)
  rw [hrespond, h.toMethod] at hserve
  rw [Move.record_after, Move.record_after, Move.record_answer, Step.run_http, hserve]
  exact ⟨rfl, rfl⟩

/-! ## Requests for no call -/

/-- A handler refuses, and no more is done than to log it. -/
def Refuses (h : Handler α) (w : World) : Prop :=
  ∃ refusal events, h.run w = (.error refusal, { w with events := events })

theorem Refuses.bind {h : Handler α} (hr : Refuses h w) (f : α → Handler β) :
    Refuses (h >>= f) w := by
  obtain ⟨refusal, events, hrun⟩ := hr
  exact ⟨refusal, events, run_bind_error f hrun⟩

theorem Refuses.after {h : Handler α} {f : α → Handler β} {a : α} (hrun : h.run w = (.ok a, w))
    (hr : Refuses (f a) w) : Refuses (h >>= f) w := by
  obtain ⟨refusal, events, hrefused⟩ := hr
  exact ⟨refusal, events, (run_bind_ok f hrun).trans hrefused⟩

theorem accept_cases (refuse : ε → Refusal) (x : Except ε α) (w : World) :
    (∃ a, x = .ok a ∧ (accept refuse x).run w = (.ok a, w)) ∨ Refuses (accept refuse x) w := by
  cases x with
  | ok a => exact .inl ⟨a, rfl, rfl⟩
  | error fault => exact .inr ⟨_, _, rfl⟩

theorem receive_cases (room : Nat) (read : Json → Input.Checked α) (r : Request) (w : World) :
    (∃ a, r.received room read = .ok a) ∨ Refuses (receive room read r) w := by
  rw [receive_eq]
  rcases accept_cases id (r.received room read) w with ⟨a, ha, -⟩ | h
  · exact .inl ⟨a, ha⟩
  · exact .inr h

theorem claims_cases (room : Nat) (secret name : String) (r : Request) (w : World) :
    (∃ token claims, r.Carries name token ∧ Token.read room w.now secret token = .ok claims ∧
      (Http.claims room secret name r).run w = (.ok claims, w)) ∨
    Refuses (Http.claims room secret name r) w := by
  cases htoken : token? name r with
  | none =>
    right
    unfold Http.claims
    rw [htoken]
    exact ⟨_, _, rfl⟩
  | some token =>
    rcases hread : Token.read room w.now secret token with fault | claims
    · right
      unfold Http.claims Refuses
      rw [htoken]
      dsimp only
      rw [run_bind, run_request]
      dsimp only
      rw [show (w.answer .clock).1 = w.now from rfl, hread]
      dsimp only
      split <;> exact ⟨_, _, rfl⟩
    · have hcarries : r.Carries name token := carries_iff.2 htoken
      exact .inl ⟨token, claims, hcarries, hread, run_claims hcarries hread⟩

theorem requireSelf_cases (claims : Token.Claims) (id : Uuid) (w : World) :
    claims.accountId = id ∨ Refuses (requireSelf claims id) w := by
  by_cases h : claims.accountId = id
  · exact .inl h
  · right
    unfold requireSelf
    rw [if_neg h]
    exact ⟨_, _, rfl⟩

theorem received_of_payload {room : Nat} {read : Json → Input.Checked α} {payload : Payload} {a : α}
    (hp : r.payload room = .ok payload) (h : payload.read read = .ok a) :
    r.received room read = .ok a := by
  unfold Request.received
  rw [hp]
  dsimp only
  rw [h]
  rfl

/-- What a request gets that stands for no call. -/
inductive Idle (r : Request) : Except Refusal Response → Prop where
  | refused (refusal : Refusal) : Idle r (.error refusal)
  | elsewhere (fields : Headers) : Idle r (.ok ⟨307, fields, .empty⟩)
  | page (page : Page) (text : String) (leads : r.destination = .page page) :
      Idle r (.ok ⟨200, [("content-type", page.contentType)], .text text⟩)
  | health (database cache : Bool) (path : r.destination = .endpoint .health "") :
      Idle r (.ok (Response.ofJson 200 (healthJson database cache)))

theorem runStatement_probe (w : World) :
    ∃ faults, (w.runStatement .probe).2 = { w with faults := faults } := by
  rcases hfault : w.faults.sql.head?.join with _ | fault
  · rw [World.runStatement_of_no_fault hfault]
    exact ⟨_, rfl⟩
  · rw [World.runStatement_of_fault hfault]
    exact ⟨_, rfl⟩

theorem runCommand_ping (w : World) :
    ∃ faults, (w.runCommand .ping).2 = { w with faults := faults } := by
  by_cases hattached : w.attached = true
  · rcases World.runCommand_cases (c := .ping) hattached with ⟨_, hc⟩ | ⟨_, -, hc⟩ | ⟨_, -, hc⟩
    all_goals
      rw [hc]
      exact ⟨_, rfl⟩
  · rw [World.runCommand_of_detached (by simpa using hattached)]
    exact ⟨w.faults, rfl⟩

theorem run_databaseAnswers (w : World) : ∃ database faults events,
    databaseAnswers.run w = (.ok database, { w with faults := faults, events := events }) := by
  obtain ⟨faults, hworld⟩ := runStatement_probe w
  have hrun : databaseAnswers.run w = Handler.run (match (w.runStatement .probe).1 with
      | .ok _ => pure true
      | .error _ => request (.log .healthCheckFailed) >>= fun _ => pure false)
      { w with faults := faults } := by
    rw [← hworld]
    exact run_bind (request (.sql .probe)) _ w
  rcases hreply : (w.runStatement .probe).1 with fault | found
  · rw [hreply] at hrun
    exact ⟨false, faults, w.events ++ [Event.healthCheckFailed], hrun⟩
  · rw [hreply] at hrun
    exact ⟨true, faults, w.events, hrun⟩

/-- A sign of life changes nothing but the faults that are left, and the log. -/
theorem health_run (site : Site) (r : Request) (argument : String) (w : World) :
    ∃ database cache faults events, (handle site r argument .health).run w =
      (.ok (Response.ofJson 200 (healthJson database cache)),
        { w with faults := faults, events := events }) := by
  obtain ⟨database, faults, events, hdatabase⟩ := run_databaseAnswers w
  generalize hw' : { w with faults := faults, events := events } = w' at hdatabase
  obtain ⟨faults', hworld⟩ := runCommand_ping w'
  have hping : (call Cache.ping).run w' =
      (.ok (w'.runCommand .ping).1.isOk, { w' with faults := faults' }) := by
    rw [← hworld]
    rfl
  refine ⟨database, (w'.runCommand .ping).1.isOk, faults', events, ?_⟩
  unfold handle
  rw [run_bind_ok _ hdatabase, run_bind_ok _ hping, ← hw']
  rfl

theorem Refuses.idle {h : Handler Response} (hr : Refuses h w) (r : Request) :
    ∃ result faults events, Idle r result ∧
      h.run w = (result, { w with faults := faults, events := events }) := by
  obtain ⟨refusal, events, hrun⟩ := hr
  exact ⟨_, w.faults, events, .refused refusal, hrun⟩

/-! ## Endpoints -/

section Endpoints

variable {argument : String}

/-- The account that the path of a change names. -/
theorem named_of_destination {e : Endpoint} (hd : r.destination = .endpoint e argument)
    (hp : e = .update ∨ e = .delete) (hid : readId argument = .ok id) :
    ∃ segment, r.Names segment ∧ Uuid.read (String.ofList segment) = .ok id := by
  refine ⟨argument.toList, names_of_destination hd hp, ?_⟩
  rw [String.ofList_toList]
  exact readId_eq_ok hid

/-- A request at the endpoint for changes stands for one, or is refused at the first of its checks that
fails: its body, its token, its identifier and values, its account. -/
theorem handle_update_cases (hd : r.destination = .endpoint .update argument)
    (hmethod : r.method = "PUT") (w : World) :
    (∃ step, r.StandsFor site w.now step) ∨ Refuses (handle site r argument .update) w := by
  rcases accept_cases Refusal.ofPayload (r.payload site.room) w with ⟨payload, hp, hbody⟩ | href
  case inr => exact .inr (href.bind _)
  rcases claims_cases site.room site.identity.secret site.cookie.name r w with
    ⟨token, claims, carries, valid, hclaims⟩ | href
  case inr => exact .inr ((href.bind _).after hbody)
  rcases accept_cases Refusal.ofProblems (Input.Checked.of Prod.mk |>.apply (readId argument)
    |>.apply (payload.read Input.revision)) w with ⟨⟨id, details⟩, hpair, hread⟩ | href
  case inr => exact .inr (((href.bind _).after hclaims).after hbody)
  obtain ⟨hid, hdetails⟩ := pair_eq_ok hpair
  rcases requireSelf_cases claims id w with hself | href
  case inr => exact .inr ((((href.bind _).after hread).after hclaims).after hbody)
  exact .inl ⟨_, .update hmethod
    ⟨named_of_destination hd (.inl rfl) hid, token, claims, carries, valid, hself⟩
    (received_of_payload hp hdetails)⟩

/-- A request at the endpoint for deletions stands for one, or is refused: for its token, its
identifier or its account. -/
theorem handle_delete_cases (hd : r.destination = .endpoint .delete argument)
    (hmethod : r.method = "DELETE") (w : World) :
    (∃ step, r.StandsFor site w.now step) ∨ Refuses (handle site r argument .delete) w := by
  rcases claims_cases site.room site.identity.secret site.cookie.name r w with
    ⟨token, claims, carries, valid, hclaims⟩ | href
  case inr => exact .inr (href.bind _)
  rcases accept_cases Refusal.ofProblems (readId argument) w with ⟨id, hid, hread⟩ | href
  case inr => exact .inr ((href.bind _).after hclaims)
  rcases requireSelf_cases claims id w with hself | href
  case inr => exact .inr (((href.bind _).after hread).after hclaims)
  exact .inl ⟨_, .delete hmethod
    ⟨named_of_destination hd (.inr rfl) hid, token, claims, carries, valid, hself⟩⟩

/-- A request at an endpoint, but for that of signs of life, stands for a call or is refused. -/
theorem handle_cases {e : Endpoint} (hd : r.destination = .endpoint e argument) (he : e ≠ .health)
    (w : World) :
    (∃ step, r.StandsFor site w.now step) ∨ Refuses (handle site r argument e) w := by
  obtain ⟨hmethod, hargument⟩ := endpoint_of_destination hd
  have hat : r.At e argument.toList := ⟨hmethod, hargument⟩
  cases e with
  | health => exact absurd rfl he
  | register =>
    rw [(destination_of_path rfl hat).1] at hat
    rcases receive_cases site.room Input.registration r w with ⟨registration, body⟩ | href
    · exact .inl ⟨_, .register hat body⟩
    · exact .inr (href.bind _)
  | login =>
    rw [(destination_of_path rfl hat).1] at hat
    rcases receive_cases site.room Input.credentials r w with ⟨credentials, body⟩ | href
    · exact .inl ⟨_, .login hat body⟩
    · exact .inr (href.bind _)
  | me =>
    rw [(destination_of_path rfl hat).1] at hat
    rcases claims_cases site.room site.identity.secret site.cookie.name r w with
      ⟨token, claims, carries, valid, -⟩ | href
    · exact .inl ⟨_, .me hat carries valid⟩
    · exact .inr (href.bind _)
  | find =>
    rcases accept_cases Refusal.ofProblems (readId argument) w with ⟨id, hid, -⟩ | href
    · refine .inl ⟨.find id, .find hat ?_⟩
      rw [String.ofList_toList]
      exact readId_eq_ok hid
    · exact .inr (href.bind _)
  | update => exact handle_update_cases hd hmethod.symm w
  | delete => exact handle_delete_cases hd hmethod.symm w

end Endpoints

/-- A request stands for a call, or it gets no more than a refusal, another place, a page or a sign of
life, and changes nothing. -/
theorem respond_cases (site : Site) (r : Request) (w : World) :
    (∃ step, r.StandsFor site w.now step) ∨
    ∃ result faults events, Idle r result ∧
      (respond site r).run w = (result, { w with faults := faults, events := events }) := by
  unfold respond
  cases hd : r.destination with
  | page page => exact .inr ⟨_, w.faults, w.events, .page page (site.pages page) hd, rfl⟩
  | otherMethod allowed => exact .inr ⟨_, w.faults, w.events, .refused (.otherMethod allowed), rfl⟩
  | shorter target => exact .inr ⟨_, w.faults, w.events, .elsewhere _, rfl⟩
  | nowhere => exact .inr ⟨_, w.faults, w.events, .refused .notFound, rfl⟩
  | endpoint e argument =>
    by_cases he : e = .health
    · subst he
      obtain ⟨hmethod, hargument⟩ := endpoint_of_destination hd
      obtain ⟨-, hd'⟩ := destination_of_path rfl ⟨hmethod, hargument⟩
      obtain ⟨database, cache, faults, events, hrun⟩ := health_run site r argument w
      exact .inr ⟨_, faults, events, .health database cache hd', hrun⟩
    · exact (handle_cases hd he w).imp_right fun href => href.idle r

/-- A request that stands for no call leaves the world as it was, and gets the answer to a question or
what comes of a request for no call. -/
theorem record_cases (setup : Setup) (faults : Faults) (r : Request) (w : World) :
    (∃ step, r.StandsFor setup.site w.now step) ∨
    (Move.record setup ⟨.http r, faults⟩ w).after = w.settled ∧
      ∃ response, (Move.record setup ⟨.http r, faults⟩ w).answer = .ok (.response response) ∧
        (questionResponse? setup.site.origins r = some response ∨ ∃ result, Idle r result ∧
          response = (setup.site.responseOf r result).toMethod r.method) := by
  rw [Move.record_after, Move.record_answer, Step.run_http]
  cases hq : questionResponse? setup.site.origins r with
  | some response =>
    rw [run_serve_of_question hq]
    exact .inr ⟨rfl, response, rfl, .inl rfl⟩
  | none =>
    rcases respond_cases setup.site r (w.facing faults) with h | ⟨result, left, events, hidle, hrun⟩
    · exact .inl h
    · obtain ⟨events', hserve⟩ := run_serve hq (w.facing faults)
      rw [hrun] at hserve
      rw [hserve]
      exact .inr ⟨rfl, _, rfl, .inr ⟨result, hidle, rfl⟩⟩

end Accounts.Http
