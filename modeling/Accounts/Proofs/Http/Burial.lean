import Accounts.Proofs.Http.Calls
import Accounts.Proofs.Http.Shielding
import Accounts.Proofs.Service.Burial
import Accounts.Proofs.Service.Integrity
import Accounts.Proofs.Uuid.Text

/-!
# Deleted accounts stay dead

What a request does to a buried account is what the call does that it stands for, so an account that
was deleted stays buried along every run that follows.  Its tokens may still be valid, and its email
may be registered again: no call for it succeeds, no session is for it, and no request that is made
on its path or with a token for it gets a success.

    delete  ->  buried  ->  ...  ->  buried  ->  dead to every move
-/

namespace Accounts

open Accounts.Request (Within)
open Cache (key)
open Calendar

variable {setup : Setup} {w : World} {faults : Faults} {moves : List Move} {id : Uuid}

namespace Http

variable {site : Site} {r : Request} {now : Instant} {step : Step} {segment : List Char}
  {result : Except Refusal Response} {user : List (String × Json)}

/-! ## Requests for an account -/

/-- A request is for an account: it looks for the account or would change it by its path, or it shows
a valid token for it where one is asked for. -/
inductive Request.Concerns (site : Site) (now : Instant) (id : Uuid) (r : Request) : Prop where
  | path {segment : List Char} (path : r.At .find segment ∨ r.Names segment)
      (read : Uuid.read (String.ofList segment) = .ok id)
  | token {token : String} {claims : Token.Claims}
      (path : r.At .me [] ∨ r.method = "PUT" ∨ r.method = "DELETE")
      (carries : r.Carries site.cookie.name token)
      (valid : Token.read site.room now site.identity.secret token = .ok claims)
      (own : claims.accountId = id)

/-- A request carries one token, which has one reading. -/
theorem claims_unique {token other : String} {claims claims' : Token.Claims}
    (hcarries : r.Carries site.cookie.name token) (hother : r.Carries site.cookie.name other)
    (hread : Token.read site.room now site.identity.secret token = .ok claims)
    (hread' : Token.read site.room now site.identity.secret other = .ok claims') : claims = claims' := by
  have htoken := carries_iff.1 hcarries
  rw [carries_iff.1 hother] at htoken
  cases htoken
  rw [hread] at hread'
  exact Except.ok.inj hread'

/-- A change is made of the account that the request may change. -/
theorem Request.StandsFor.of_change (h : r.StandsFor site now step)
    (hm : r.method = "PUT" ∨ r.method = "DELETE") :
    ∃ owner, site.Authorizes now r owner ∧ step.IsFor owner := by
  cases h with
  | register path | login path | me path | find path =>
    exact absurd (path.method.symm ▸ hm) (by decide)
  | update _ authorized | delete _ authorized => exact ⟨_, authorized, rfl⟩

theorem Request.StandsFor.of_delete (h : r.StandsFor site now step) (hm : r.method = "DELETE") :
    ∃ owner, site.Authorizes now r owner ∧ step = .delete owner := by
  cases h with
  | register path | login path | me path | find path =>
    exact absurd (path.method.trans hm) (by decide)
  | update method => exact absurd (method.symm.trans hm) (by decide)
  | delete _ authorized => exact ⟨_, authorized, rfl⟩

theorem Request.StandsFor.of_find (h : r.StandsFor site now step) (path : r.At .find segment)
    (hread : Uuid.read (String.ofList segment) = .ok id) : step = .find id := by
  cases h with
  | register other | login other =>
    exact absurd (path.method.trans other.method.symm) (by decide)
  | update method | delete method => exact absurd (path.method.trans method) (by decide)
  | me other =>
    have hdestination := destination_of_account path rfl hread
    rw [(destination_of_path rfl other).2] at hdestination
    cases hdestination
  | find other hother =>
    have hsegment := other.path
    rw [path.path] at hsegment
    cases hsegment
    rw [hread] at hother
    cases hother
    rfl

theorem Request.StandsFor.of_me {token : String} {claims : Token.Claims}
    (h : r.StandsFor site now step) (path : r.At .me [])
    (hcarries : r.Carries site.cookie.name token)
    (hread : Token.read site.room now site.identity.secret token = .ok claims) :
    step = .find claims.accountId := by
  cases h with
  | register other | login other =>
    exact absurd (path.method.trans other.method.symm) (by decide)
  | update method | delete method => exact absurd (path.method.trans method) (by decide)
  | me _ carries valid => rw [claims_unique carries hcarries valid hread]
  | find other hother =>
    have hdestination := destination_of_account other rfl hother
    rw [(destination_of_path rfl path).2] at hdestination
    cases hdestination

/-- A request that is for an account stands for calls for the account alone. -/
theorem Request.StandsFor.isFor (h : r.StandsFor site now step) (hc : r.Concerns site now id) :
    step.IsFor id := by
  cases hc with
  | path path read =>
    rcases path with path | names
    · rw [h.of_find path read]
      rfl
    · obtain ⟨owner, ⟨⟨segment, hnames, hread⟩, -⟩, hfor⟩ := h.of_change names.method
      rw [names_unique hnames names, read] at hread
      rwa [Except.ok.inj hread]
  | token path carries valid own =>
    rcases path with path | hm
    · rw [h.of_me path carries valid]
      exact own
    · obtain ⟨owner, ⟨-, token, claims, hcarries, hvalid, hself⟩, hfor⟩ := h.of_change hm
      rwa [← own, ← claims_unique hcarries carries hvalid valid, hself]

/-- No sign of life is for an account. -/
theorem Request.Concerns.not_health (hc : r.Concerns site now id) :
    r.destination ≠ .endpoint .health "" := by
  intro hd
  obtain ⟨hmethod, -⟩ := endpoint_of_destination hd
  cases hc with
  | path path read =>
    rcases path with path | names
    · rw [destination_of_account path rfl read] at hd
      cases hd
    · exact absurd (hmethod.symm ▸ names.method) (by decide)
  | token path =>
    rcases path with path | hm
    · rw [(destination_of_path rfl path).2] at hd
      cases hd
    · exact absurd (hmethod.symm ▸ hm) (by decide)

/-- No page is for an account. -/
theorem Request.Concerns.not_page (hc : r.Concerns site now id) (page : Page) :
    r.destination ≠ .page page := by
  intro hd
  have hmethod : r.method = "GET" ∨ r.method = "HEAD" := by
    simpa [Page.methods] using method_of_page hd
  have hchange (hm : r.method = "PUT" ∨ r.method = "DELETE") : False := by
    rcases hm with hm | hm <;> rw [hm] at hmethod <;> exact absurd hmethod (by decide)
  cases hc with
  | path path read =>
    rcases path with path | names
    · rw [destination_of_account path rfl read] at hd
      cases hd
    · exact hchange names.method
  | token path =>
    rcases path with path | hm
    · rw [(destination_of_path rfl path).2] at hd
      cases hd
    · exact hchange hm

theorem Request.Concerns.question (hc : r.Concerns site now id) (origins : List String) :
    questionResponse? origins r = none := by
  refine questionResponse?_of_method (fun hoptions => ?_) origins
  cases hc with
  | path path =>
    rcases path with path | names
    · exact absurd (path.method.trans hoptions) (by decide)
    · exact absurd (hoptions ▸ names.method) (by decide)
  | token path =>
    rcases path with path | hm
    · exact absurd (path.method.trans hoptions) (by decide)
    · exact absurd (hoptions ▸ hm) (by decide)

/-- A request for an account that stands for no call gets no success. -/
theorem Idle.le_status (h : Idle r result) (hc : r.Concerns site now id) :
    300 ≤ ((site.responseOf r result).toMethod r.method).status := by
  rw [toMethod_status]
  cases h with
  | refused refusal =>
    rw [responseOf_status]
    exact Nat.le_trans (by decide) refusal.le_status
  | elsewhere => exact (by decide : 300 ≤ 307)
  | page page _ leads => exact absurd leads (hc.not_page page)
  | health _ _ path => exact absurd path hc.not_health

/-- A request whose call fails gets no success. -/
theorem le_status_of_error (site : Site) (r : Request) (now : Instant) (step : Step) (e : Error) :
    300 ≤ (site.responseOf r (site.outcome now step (.error e))).status := by
  have hstatus := responseOf_status site r (Refusal.ofError e)
  exact Nat.le_trans (by decide) (hstatus ▸ (Refusal.ofError e).le_status)

/-! ## Responses with sessions -/

/-- A response shows the members of an account beside a token. -/
def Response.Views (user : List (String × Json)) (response : Response) : Prop :=
  ∃ token, response.body = .json (.obj [("user", .obj user), ("token", token)])

theorem Response.Views.head {response : Response} {name : String} {j : Json}
    {members : List (String × Json)} (h : response.Views user)
    (hbody : response.body = .json (.obj ((name, j) :: members))) : name = "user" ∧ j = .obj user := by
  obtain ⟨token, hview⟩ := h
  rw [hbody] at hview
  injection hview with hview
  injection hview with hview
  injection hview with hmember
  injection hmember with hname hj
  exact ⟨hname, hj⟩

theorem Response.Views.of_toMethod {response : Response} {method : String}
    (h : (response.toMethod method).Views user) : response.Views user := by
  obtain ⟨token, hbody⟩ := h
  unfold Response.toMethod at hbody
  split at hbody
  · cases hbody
  · exact ⟨token, hbody⟩

theorem not_views_refused (site : Site) (r : Request) (refusal : Refusal) :
    ¬ (site.responseOf r (.error refusal)).Views user := by
  intro h
  have hbody : (site.responseOf r (.error refusal)).body = refusal.response.body := by
    cases refusal <;> rfl
  unfold Refusal.response at hbody
  split at hbody
  · obtain ⟨token, hview⟩ := h
    rw [hview] at hbody
    cases hbody
  · exact absurd (h.head hbody).1 (by decide)

theorem Idle.not_views (h : Idle r result) :
    ¬ ((site.responseOf r result).toMethod r.method).Views user := by
  intro hviews
  have hviews := hviews.of_toMethod
  cases h with
  | refused refusal => exact not_views_refused site r refusal hviews
  | elsewhere | page =>
    obtain ⟨token, hbody⟩ := hviews
    cases hbody
  | health => exact absurd (hviews.head rfl).1 (by decide)

theorem views_withField {field : Option String} {response : Response}
    (h : (site.responseOf r (withField field response)).Views user) : response.Views user := by
  cases field with
  | none => exact absurd h (not_views_refused site r _)
  | some field => exact h

/-- What a call answers is shown as an account beside a token only when it is a session. -/
theorem views_outcome {answer : Answer} (hanswers : step.Answers answer)
    (h : (site.responseOf r (site.outcome now step (.ok answer))).Views user) :
    ∃ s, answer = .session s ∧ user = s.account.toProfile.members [] := by
  cases hanswers with
  | register _ s | login _ s =>
    have hview : Json.obj _ = .obj user := ((views_withField h).head rfl).2
    cases hview
    exact ⟨s, rfl, rfl⟩
  | find | update => exact absurd (h.head rfl).1 (by decide)
  | delete => cases ((views_withField h).head rfl).2

/-- The members of a profile name no other account. -/
theorem id_of_mem_members {p : Profile} (h : ("id", Json.str id.text) ∈ p.members []) :
    p.id = id := by
  refine Uuid.text_injective ?_
  simpa [Profile.members, eq_comm] using h

end Http

/-! ## Moves -/

theorem Buried.record_call {step : Step} (hstep : step.IsCall) (h : Buried id w)
    (hnew : id.UnusedFrom w (Move.record setup ⟨step, faults⟩ w).after) :
    Buried id (Move.record setup ⟨step, faults⟩ w).after := by
  obtain ⟨hrow, hcopy⟩ : Buried id (step.run setup (w.facing faults)).2 :=
    Step.run_buried hstep ⟨h.row, h.copy⟩ hnew
  exact ⟨hrow, hcopy⟩

/-- A move leaves an account buried. -/
theorem Buried.record {m : Move} (hm : m.step.Forward) (h : Buried id w)
    (hnew : id.UnusedFrom w (m.record setup w).after) : Buried id (m.record setup w).after := by
  obtain ⟨step, faults⟩ := m
  cases step with
  | register | login | update | delete | find => exact h.record_call trivial hnew
  | http r =>
    rcases Http.record_cases setup faults r w with ⟨step, hcall⟩ | ⟨hafter, -⟩
    · rw [(Http.record_of_standsFor hcall faults).1] at hnew ⊢
      exact h.record_call hcall.isCall hnew
    · rw [hafter]
      exact ⟨h.row, h.copy⟩
  | setSalt salt => exact ⟨h.row, h.copy⟩
  | advance span =>
    -- a copy that lives later would live now
    have hspan : (0 : Int) ≤ span := hm
    refine ⟨h.row, ?_⟩
    show w.keys.live? (w.now + span) (key id) = none
    cases hlive : w.keys.live? (w.now + span) (key id) with
    | none => rfl
    | some entry =>
      have hearlier := Cache.Keyspace.live?_later (Int.le_add_of_nonneg_right hspan) hlive
      rw [h.copy] at hearlier
      cases hearlier
  | _ => exact hm.elim

theorem Buried.finish (hmoves : ∀ m ∈ moves, m.step.Forward) (h : Buried id w)
    (hnew : id.UnusedFrom w (finish setup moves w)) : Buried id (finish setup moves w) := by
  induction moves generalizing w with
  | nil => exact h
  | cons m moves ih =>
    have hrest := finish_insertions_le setup moves (m.record setup w).after
    have hmove := h.record (hmoves m List.mem_cons_self) (hnew.until hrest)
    exact ih (fun m' hm' => hmoves m' (List.mem_cons_of_mem m hm')) hmove
      (hnew.since (m.record_insertions_le setup w))

/-- A move finds an account dead and leaves it so: its calls fail, it has no session and no copy, and
no request for it gets a success. -/
structure StaysDead (setup : Setup) (id : Uuid) (x : Record) : Prop where
  copyBefore : x.before.keys.live? x.before.now (key id) = none
  copyAfter : x.after.keys.live? x.after.now (key id) = none
  calls : x.move.step.IsFor id → ∃ e, x.answer = .error e
  sessions : ∀ s, x.answer = .ok (.session s) → s.account.id ≠ id
  requests : ∀ r response, x.move.step = .http r → x.answer = .ok (.response response) →
    r.Concerns setup.site x.before.now id → 300 ≤ response.status
  views : ∀ r response user, x.move.step = .http r → x.answer = .ok (.response response) →
    response.Views user → ("id", .str id.text) ∉ user

theorem Buried.call_fails {step : Step} (h : Buried id w) (hfor : step.IsFor id) (faults : Faults) :
    ∃ e, (Move.record setup ⟨step, faults⟩ w).answer = .error e :=
  Step.error_of_buried (w := w.facing faults) hfor ⟨h.row, h.copy⟩

/-- A session is not for a buried account. -/
theorem Buried.session_ne {step : Step} {s : Session}
    (h : Buried id (Move.record setup ⟨step, faults⟩ w).after) (hstep : step.IsCall)
    (hs : (Move.record setup ⟨step, faults⟩ w).answer = .ok (.session s)) : s.account.id ≠ id := by
  obtain ⟨row, hrow, hsession⟩ := Step.session_row hstep hs
  rw [hsession]
  exact Store.Table.find?_eq_none.1 h.row row hrow

/-- The answers to requests show nothing of a buried account. -/
theorem Buried.response {r : Http.Request} {response : Http.Response} (h : Buried id w)
    (hafter : Buried id (Move.record setup ⟨.http r, faults⟩ w).after)
    (hresponse : (Move.record setup ⟨.http r, faults⟩ w).answer = .ok (.response response)) :
    (r.Concerns setup.site w.now id → 300 ≤ response.status) ∧
      ∀ user, response.Views user → ("id", .str id.text) ∉ user := by
  rcases Http.record_cases setup faults r w with ⟨step, hcall⟩ | ⟨-, response', hanswer, hidle⟩
  · obtain ⟨hworld, hanswer⟩ := Http.record_of_standsFor hcall faults
    rw [hresponse] at hanswer
    cases hanswer
    rw [hworld] at hafter
    rcases hcalled : (Move.record setup ⟨step, faults⟩ w).answer with e | answer
    · exact ⟨fun _ => Http.le_status_of_error setup.site r w.now step e,
        fun user hviews => (Http.not_views_refused _ _ _ hviews).elim⟩
    · refine ⟨fun hc => ?_, fun user hviews hmem => ?_⟩
      · obtain ⟨e, herror⟩ := h.call_fails (hcall.isFor hc) faults
        cases hcalled.symm.trans herror
      · obtain ⟨s, rfl, rfl⟩ := Http.views_outcome (hcall.isCall.answers hcalled) hviews
        exact hafter.session_ne hcall.isCall hcalled (Http.id_of_mem_members hmem)
  · rw [hresponse] at hanswer
    cases hanswer
    rcases hidle with hquestion | ⟨result, hidle, rfl⟩
    · refine ⟨fun hc => ?_, ?_⟩
      · rw [hc.question] at hquestion
        cases hquestion
      · rintro user ⟨token, hbody⟩
        exact absurd hbody ((Http.isPlain_of_question hquestion).body _)
    · exact ⟨hidle.le_status, fun user hviews => (hidle.not_views hviews).elim⟩

/-! ## Deletions -/

/-- A move deletes an account: its deletion is answered, or a request for that gets a success. -/
inductive Deletes (id : Uuid) (x : Record) : Prop where
  | call {answer : Answer} (step : x.move.step = .delete id) (done : x.answer = .ok answer)
  | request {r : Http.Request} {segment : List Char} {response : Http.Response}
      (step : x.move.step = .http r) (method : r.method = "DELETE") (names : r.Names segment)
      (read : Uuid.read (String.ofList segment) = .ok id)
      (answered : x.answer = .ok (.response response)) (done : response.status < 300)

theorem delete_removes_row {answer : Answer}
    (hdone : (Move.record setup ⟨.delete id, faults⟩ w).answer = .ok answer) :
    (∃ row, w.table.find? id = some row) ∧
      (Move.record setup ⟨.delete id, faults⟩ w).after.table.find? id = none := by
  rw [Move.record_answer, Step.run_delete] at hdone
  dsimp only at hdone
  rw [Move.record_table, Step.run_delete]
  dsimp only
  rcases hok : ((Identity.delete id).run (w.facing faults)).1 with e | u
  · rw [hok] at hdone
    cases hdone
  · exact Identity.delete_removes hok

/-- A deletion takes away the row that there was. -/
theorem Deletes.row {m : Move} (h : Deletes id (m.record setup w)) :
    (∃ row, w.table.find? id = some row) ∧ (m.record setup w).after.table.find? id = none := by
  obtain ⟨step, faults⟩ := m
  cases h with
  | call hstep done =>
    obtain rfl : step = .delete id := hstep
    exact delete_removes_row done
  | @request r segment response hstep method names read answered done =>
    obtain rfl : step = .http r := hstep
    have hc : r.Concerns setup.site w.now id := .path (.inr names) read
    rcases Http.record_cases setup faults r w with ⟨step, hcall⟩ | ⟨-, response', hanswer, hidle⟩
    · obtain ⟨hworld, hanswer⟩ := Http.record_of_standsFor hcall faults
      obtain ⟨owner, ⟨⟨segment', hnames, hread⟩, -⟩, rfl⟩ := hcall.of_delete method
      rw [Http.names_unique hnames names, read] at hread
      cases hread
      rw [answered] at hanswer
      cases hanswer
      rw [hworld]
      rcases hcalled : (Move.record setup ⟨.delete id, faults⟩ w).answer with e | answer
      · rw [hcalled] at done
        exact absurd (Http.le_status_of_error setup.site r w.now _ e) (Nat.not_le_of_lt done)
      · exact delete_removes_row hcalled
    · rw [answered] at hanswer
      cases hanswer
      rcases hidle with hquestion | ⟨result, hidle, rfl⟩
      · rw [hc.question] at hquestion
        cases hquestion
      · exact absurd (hidle.le_status hc) (Nat.not_le_of_lt done)

/-- After a command of a deletion for the copy was carried out, no copy lives. -/
theorem Deletes.copy {m : Move} (h : Deletes id (m.record setup w))
    (hattached : w.attached = true)
    (hdrops : (m.record setup w).exchanges.any Exchange.drops = true) :
    (m.record setup w).after.keys.live? (m.record setup w).after.now (key id) = none := by
  obtain ⟨step, faults⟩ := m
  have hattached' : (w.facing faults).attached = true := hattached
  cases h with
  | call hstep done =>
    obtain rfl : step = .delete id := hstep
    have htrace : (Step.delete id).trace setup (w.facing faults) =
        (Identity.delete id).trace (w.facing faults) :=
      Action.trace_bind_pure _ (fun _ => Answer.nothing) _
    rw [Move.record_exchanges, htrace] at hdrops
    rw [Move.record_keys, Move.record_now, Step.run_delete]
    dsimp only
    rw [Action.run_now]
    exact Program.Asks.run_drops (Identity.asks_delete id) hattached' hdrops
  | @request r segment response hstep method names read answered done =>
    obtain rfl : step = .http r := hstep
    have hasks : (Http.serve setup.site r).Asks (Within (fun _ => True) (Cache.Drops id)) := by
      refine Http.asks_serve_of_respond (Program.Asks.mono ?_ (Http.asks_respond_names names))
      refine Within.mono (fun _ _ => trivial) fun c hc => ?_
      obtain ⟨owner, hread, hc⟩ := hc
      rw [read] at hread
      cases hread
      exact hc
    rw [Move.record_exchanges, Step.trace_http] at hdrops
    rw [Move.record_keys, Move.record_now, Step.run_http]
    dsimp only
    rw [Program.run_now]
    exact hasks.run_drops hattached' hdrops

/-- A buried account is dead to every move. -/
theorem Buried.staysDead {m : Move} (hm : m.step.Forward) (h : Buried id w)
    (hnew : id.UnusedFrom w (m.record setup w).after) : StaysDead setup id (m.record setup w) := by
  have hafter := h.record hm hnew
  obtain ⟨step, faults⟩ := m
  refine ⟨h.copy, hafter.copy, fun hfor => ?_, fun s hs => ?_, fun r response hstep hanswer hc => ?_,
    fun r response user hstep hanswer hviews => ?_⟩
  · exact h.call_fails hfor faults
  · cases step with
    | register | login | update | delete | find => exact hafter.session_ne trivial hs
    | http r =>
      rw [Move.record_answer, Step.run_http] at hs
      cases hs
    | setSalt | advance => cases hs
    | _ => exact hm.elim
  · obtain rfl : step = .http r := hstep
    exact (h.response hafter hanswer).1 hc
  · obtain rfl : step = .http r := hstep
    exact (h.response hafter hanswer).2 user hviews

/-- A move deletes an account over a connection to the cache that stays up, and one of its commands
for the copy is carried out. -/
structure Buries (id : Uuid) (x : Record) : Prop where
  deletes : Deletes id x
  attached : x.before.attached = true
  dropped : x.exchanges.any Exchange.drops = true

theorem Buries.buried {m : Move} (h : Buries id (m.record setup w)) :
    Buried id (m.record setup w).after :=
  ⟨h.deletes.row.2, h.deletes.copy h.attached h.dropped⟩

/-- **A deleted account stays dead.**  Whatever happened before and whatever faults are met, once a
deletion is answered and one of its commands for the copy is carried out, every later move of a run
finds the account dead and leaves it so, if no identifier is given twice. -/
theorem deleted_account_stays_dead (setup : Setup) (start : Instant) (salt : String)
    (faults : Faults) (moves : List Move) (deletion : Move) (later : List Move) (m : Move)
    (id : Uuid) :
    let x := deletion.record setup (finish setup moves (World.started setup start salt faults))
    let y := m.record setup (finish setup later x.after)
    Buries id x → (∀ m' ∈ later, m'.step.Forward) → m.step.Forward →
    y.after.NeverRepeats → StaysDead setup id y := by
  intro x y hburies hlater hm hnew
  have hnumbered : x.before.Numbered := by
    refine finish_numbered fun row hrow => ?_
    rw [(World.started_empty setup start salt faults).table] at hrow
    cases hrow
  -- the row that was deleted tells which insertion gave the identifier
  obtain ⟨⟨row, hrow⟩, -⟩ := hburies.deletes.row
  have hunused : id.UnusedFrom x.after y.after := by
    rw [← Store.Table.id_of_find? hrow]
    exact hnumbered.unused (Store.Table.mem_of_find? hrow)
      (deletion.record_insertions_le setup _) hnew
  have hlast := m.record_insertions_le setup (finish setup later x.after)
  have hbefore := hburies.buried.finish hlater (hunused.until hlast)
  exact hbefore.staysDead hm (hunused.since (finish_insertions_le setup later x.after))

/-- The deletion of the first account, while the store of keys is down for its first command. -/
def sampleDeletion : Move := ⟨.delete (World.insertionId 1), { delete := [some .down] }⟩

/-- The email of the deleted account is registered again; a look-up still finds nothing. -/
theorem deleted_account_stays_dead_sample :
    let x := sampleDeletion.record Setup.sample (sampleWorld Setup.sample)
    let y := Move.record Setup.sample ⟨.find (World.insertionId 1), {}⟩
      (finish Setup.sample sampleEnrolment x.after)
    Buries (World.insertionId 1) x ∧ (∀ m ∈ sampleEnrolment, m.step.Forward) ∧
      y.after.NeverRepeats ∧ StaysDead Setup.sample (World.insertionId 1) y := by
  have htwo {w : World} (hw : w.insertions = 2) : w.NeverRepeats := by
    intro a b ha hab hb
    obtain ⟨rfl, rfl⟩ : a = 1 ∧ b = 2 := by omega
    decide
  have hforward : ∀ m ∈ sampleEnrolment, m.step.Forward := by
    intro m hm
    rw [List.mem_singleton.1 hm]
    trivial
  intro x y
  have hmove : x.move = sampleDeletion := Move.record_move Setup.sample sampleDeletion _
  have hdone : x.answer.isOk = true := by decide +kernel
  have hburies : Buries (World.insertionId 1) x := by
    refine ⟨?_, by decide +kernel, by decide +kernel⟩
    rcases hanswer : x.answer with e | answer
    · rw [hanswer] at hdone
      cases hdone
    · exact .call (by rw [hmove]; rfl) hanswer
  have hnew : y.after.NeverRepeats := htwo (by decide +kernel)
  exact ⟨hburies, hforward, hnew, deleted_account_stays_dead Setup.sample 0 sampleSalt {}
    sampleEnrolment sampleDeletion sampleEnrolment ⟨.find (World.insertionId 1), {}⟩
    (World.insertionId 1) hburies hforward trivial hnew⟩

end Accounts
