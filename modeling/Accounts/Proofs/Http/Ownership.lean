import Accounts.Proofs.Http.Handler
import Accounts.Proofs.World.Run

/-!
# Who changes an account over HTTP

A request rewrites a row only when it is `PUT` or `DELETE` on the path of that account and carries a
valid token for it, and then it rewrites no other row.  Without such a token these requests run no
statement and send no command.  A token that is given as a credential hides all cookies.

    row of id changed -> PUT or DELETE /auth/id -> token read -> its account is id
-/

namespace Accounts.Http

open Accounts.Request (Within)
open Handler

variable {site : Site} {r : Request} {w : World} {segment : List Char} {id : Uuid}

/-! ## Requests for a change -/

/-- A request asks for a change or a deletion, and a segment of its path names the account. -/
structure Request.Names (r : Request) (segment : List Char) : Prop where
  method : r.method = "PUT" ∨ r.method = "DELETE"
  path : r.target.path = "/auth/".toList ++ segment
  nonempty : segment ≠ []
  single : '/' ∉ segment

/-- A request carries a token: as a credential, or in the cookie when there is no credential. -/
def Request.Carries (name : String) (r : Request) (token : String) : Prop :=
  bearerToken? r = some token ∨
    bearerToken? r = none ∧ r.cookie? name = some token ∧ token ≠ ""

/-- A request may change an account: it names the account, and carries a token for it. -/
structure Site.Authorizes (site : Site) (now : Calendar.Instant) (r : Request) (id : Uuid) :
    Prop where
  named : ∃ segment, r.Names segment ∧ Uuid.read (String.ofList segment) = .ok id
  token : ∃ token claims, r.Carries site.cookie.name token ∧
    Token.read site.room now site.identity.secret token = .ok claims ∧ claims.accountId = id

theorem bearerToken?_ne_empty {token : String} (h : bearerToken? r = some token) : token ≠ "" := by
  unfold bearerToken? at h
  split at h
  · dsimp only at h
    split at h
    · rename_i hc
      cases h
      exact hc.2
    · cases h
  · cases h

theorem carries_iff {name token : String} : r.Carries name token ↔ token? name r = some token := by
  unfold Request.Carries token?
  rcases hb : bearerToken? r with _ | bearer
  · simp [Option.filter_eq_some_iff]
  · have hne := bearerToken?_ne_empty hb
    simp only [Option.some.injEq, reduceCtorEq, false_and, or_false, Option.some_or,
      Option.filter_some, decide_eq_true hne, if_true]

/-! ## Paths -/

theorem segment?_eq_some_iff {path : List Char} : Endpoint.segment? path = some segment ↔
    path = "/auth/".toList ++ segment ∧ segment ≠ [] ∧ '/' ∉ segment := by
  unfold Endpoint.segment?
  constructor
  · intro h
    split at h
    · rename_i s hs
      split at h
      · cases h
      · rename_i hc
        cases h
        rw [not_or] at hc
        exact ⟨Text.after?_eq_some_iff.1 hs, by simpa using hc.1, hc.2⟩
    · cases h
  · rintro ⟨rfl, hne, hslash⟩
    rw [Text.after?_eq_some_iff.2 rfl]
    simp [hne, hslash]

/-- The paths of pages have their second character from three. -/
theorem Page.ofPath?_eq_none {c : Char} (hc : c ∉ ['o', 'd', 'r']) (rest : List Char) :
    Page.ofPath? ('/' :: c :: rest) = none := by
  unfold Page.ofPath?
  rw [List.find?_eq_none]
  intro p _ hp
  have hsecond : ('/' :: c :: rest)[1]? ∈ ['o', 'd', 'r'].map some := by
    rcases of_decide_eq_true hp with h | h <;> rw [h] <;> cases p <;> decide
  exact hc (by simpa using hsecond)

/-- No page has the path of an account. -/
theorem Page.ofPath?_of_segment? {path : List Char} (h : Endpoint.segment? path = some segment) :
    Page.ofPath? path = none := by
  rw [(segment?_eq_some_iff.1 h).1]
  exact Page.ofPath?_eq_none (by decide) _

/-- A path that is that of no page leads to an endpoint, if anywhere. -/
theorem destination_of_no_page (h : Page.ofPath? r.target.path = none) :
    r.destination = r.endpoint := by
  unfold Request.destination
  rw [h]

/-- A request leads to a page by a method of pages. -/
theorem method_of_page {page : Page} (h : r.destination = .page page) : r.method ∈ Page.methods := by
  unfold Request.destination at h
  split at h
  · split at h
    · assumption
    · cases h
  · unfold Request.endpoint at h
    dsimp only at h
    split at h
    · cases h
    · cases h
    · split at h
      · split at h <;> cases h
      · cases h

/-- A request leads to an endpoint of its method with its path. -/
theorem endpoint_of_destination {e : Endpoint} {argument : String}
    (h : r.destination = .endpoint e argument) :
    e.method = r.method ∧ e.argument? r.target.path = some argument.toList := by
  have hendpoint : r.endpoint = .endpoint e argument := by
    unfold Request.destination at h
    split at h
    · split at h <;> cases h
    · exact h
  unfold Request.endpoint at hendpoint
  dsimp only at hendpoint
  split at hendpoint
  · rename_i e' a hfound
    cases hendpoint
    have hmethod := List.find?_some hfound
    obtain ⟨e'', -, hmap⟩ := List.mem_filterMap.1 (List.mem_of_find?_eq_some hfound)
    obtain ⟨a', ha', heq⟩ := Option.map_eq_some_iff.1 hmap
    cases heq
    exact ⟨by simpa using hmethod, by simpa using ha'⟩
  · cases hendpoint
  · split at hendpoint
    · split at hendpoint <;> cases hendpoint
    · cases hendpoint

/-- A request leads to an endpoint if it is the only one of its method with its path, and no page has
the path. -/
theorem destination_of_unique {e : Endpoint} {argument : List Char}
    (hpage : Page.ofPath? r.target.path = none) (hmethod : e.method = r.method)
    (hpath : e.argument? r.target.path = some argument)
    (hunique : ∀ e', e'.method = r.method → (e'.argument? r.target.path).isSome → e' = e) :
    r.destination = .endpoint e (String.ofList argument) := by
  have hmem : (e, argument) ∈ Endpoint.all.filterMap fun e =>
      (e.argument? r.target.path).map fun a => (e, a) :=
    List.mem_filterMap.2 ⟨e, by cases e <;> decide, by rw [hpath]; rfl⟩
  rw [destination_of_no_page hpage]
  rcases hfound : (Endpoint.all.filterMap fun e => (e.argument? r.target.path).map fun a => (e, a)).find?
      (fun p => p.1.method = r.method) with _ | ⟨e', a⟩
  · exact absurd (decide_eq_true hmethod) (List.find?_eq_none.1 hfound _ hmem)
  · obtain ⟨e'', -, hmap⟩ := List.mem_filterMap.1 (List.mem_of_find?_eq_some hfound)
    obtain ⟨a', ha', heq⟩ := Option.map_eq_some_iff.1 hmap
    cases heq
    have he : e' = e := hunique e' (by simpa using List.find?_some hfound) (by rw [ha']; rfl)
    subst he
    rw [hpath] at ha'
    cases ha'
    unfold Request.endpoint
    dsimp only
    rw [hfound]

/-- A request that names an account leads to the endpoint for changes or for deletions. -/
theorem destination_of_names (h : r.Names segment) :
    r.destination = .endpoint .update (String.ofList segment) ∨
      r.destination = .endpoint .delete (String.ofList segment) := by
  have hpath : Endpoint.segment? r.target.path = some segment :=
    segment?_eq_some_iff.2 ⟨h.path, h.nonempty, h.single⟩
  have hpage : Page.ofPath? r.target.path = none := Page.ofPath?_of_segment? hpath
  rcases h.method with hm | hm
  · refine .inl (destination_of_unique hpage hm.symm hpath fun e he _ => ?_)
    rw [hm] at he
    cases e <;> first | rfl | exact absurd he (by decide)
  · refine .inr (destination_of_unique hpage hm.symm hpath fun e he _ => ?_)
    rw [hm] at he
    cases e <;> first | rfl | exact absurd he (by decide)

theorem names_of_destination {e : Endpoint} {argument : String}
    (h : r.destination = .endpoint e argument) (he : e = .update ∨ e = .delete) :
    r.Names argument.toList := by
  obtain ⟨hmethod, hargument⟩ := endpoint_of_destination h
  rcases he with rfl | rfl
  · obtain ⟨hpath, hne, hslash⟩ := segment?_eq_some_iff.1 hargument
    exact ⟨.inl hmethod.symm, hpath, hne, hslash⟩
  · obtain ⟨hpath, hne, hslash⟩ := segment?_eq_some_iff.1 hargument
    exact ⟨.inr hmethod.symm, hpath, hne, hslash⟩

/-! ## Turning away -/

/-- A handler refuses without a statement and without a command. -/
structure TurnsAway (h : Handler α) (w : World) : Prop where
  silent : ∀ x ∈ h.trace w, x.request.Within (fun _ => False) fun _ => False
  refused : ∃ refusal, (h.run w).1 = .error refusal

/-- A handler turns away when a part that asks for nothing fails, or what follows turns away. -/
theorem TurnsAway.bind {h : Handler α} {f : α → Handler β}
    (hh : h.Asks (Within (fun _ => False) fun _ => False))
    (hf : ∀ a w', h.run w = (.ok a, w') → TurnsAway (f a) w') : TurnsAway (h >>= f) w := by
  rcases hrun : h.run w with ⟨refusal | a, w'⟩
  · refine ⟨fun x hx => ?_, refusal, ?_⟩
    · rw [trace_bind, hrun, List.append_nil] at hx
      exact Program.Asks.of_mem_trace hh hx
    · rw [run_bind, hrun]
  · obtain ⟨hsilent, hrefused⟩ := hf a w' hrun
    refine ⟨fun x hx => ?_, ?_⟩
    · rw [trace_bind, hrun] at hx
      rcases List.mem_append.1 hx with hx | hx
      · exact Program.Asks.of_mem_trace hh hx
      · exact hsilent x hx
    · rw [run_bind, hrun]
      exact hrefused

/-- Claims are those of the token that the request carries, read at the time of the world. -/
theorem claims_eq_ok {room : Nat} {secret name : String} {claims : Token.Claims} {w' : World}
    (h : (Http.claims room secret name r).run w = (.ok claims, w')) :
    w' = w ∧ ∃ token, r.Carries name token ∧ Token.read room w.now secret token = .ok claims := by
  unfold Http.claims at h
  split at h
  · cases h
  · rename_i token htoken
    rw [run_bind, run_request] at h
    dsimp only at h
    split at h
    · rename_i c hread
      cases h
      exact ⟨rfl, token, carries_iff.2 htoken, hread⟩
    · split at h <;> cases h

theorem run_accept_ok {refuse : ε → Refusal} {x : Except ε α} {a : α} {w' : World}
    (h : (accept refuse x).run w = (.ok a, w')) : x = .ok a ∧ w' = w := by
  rcases x with fault | b <;> cases h
  exact ⟨rfl, rfl⟩

/-- Whoever passes the check of the account has its identifier. -/
theorem requireSelf_eq_ok {claims : Token.Claims} {u : Unit} {w' : World}
    (h : (requireSelf claims id).run w = (.ok u, w')) : claims.accountId = id := by
  unfold requireSelf at h
  split at h
  · assumption
  · cases h

theorem update_turnsAway (h : r.Names segment) (hno : ∀ id, ¬ site.Authorizes w.now r id) :
    TurnsAway (handle site r (String.ofList segment) .update) w := by
  refine .bind (asks_accept _ _) fun payload w₁ h₁ => ?_
  obtain ⟨-, rfl⟩ := run_accept_ok h₁
  refine .bind (asks_claims _ _ _ _) fun claims w₂ h₂ => ?_
  obtain ⟨rfl, token, hcarries, hread⟩ := claims_eq_ok h₂
  refine .bind (asks_accept _ _) fun p w₃ h₃ => ?_
  obtain ⟨hp, rfl⟩ := run_accept_ok h₃
  refine .bind (asks_requireSelf _ _) fun u w₄ h₄ => ?_
  exact absurd ⟨⟨segment, h, readId_eq_ok (pair_eq_ok hp).1⟩, token, claims, hcarries, hread,
    requireSelf_eq_ok h₄⟩ (hno p.1)

theorem delete_turnsAway (h : r.Names segment) (hno : ∀ id, ¬ site.Authorizes w.now r id) :
    TurnsAway (handle site r (String.ofList segment) .delete) w := by
  refine .bind (asks_claims _ _ _ _) fun claims w₂ h₂ => ?_
  obtain ⟨rfl, token, hcarries, hread⟩ := claims_eq_ok h₂
  refine .bind (asks_accept _ _) fun id w₃ h₃ => ?_
  obtain ⟨hid, rfl⟩ := run_accept_ok h₃
  refine .bind (asks_requireSelf _ _) fun u w₄ h₄ => ?_
  exact absurd ⟨⟨segment, h, readId_eq_ok hid⟩, token, claims, hcarries, hread,
    requireSelf_eq_ok h₄⟩ (hno id)

/-- Without a token for the account that it names, a request is turned away. -/
theorem respond_turnsAway (h : r.Names segment) (hno : ∀ id, ¬ site.Authorizes w.now r id) :
    TurnsAway (respond site r) w := by
  unfold respond
  rcases destination_of_names h with hd | hd
  · rw [hd]
    exact update_turnsAway h hno
  · rw [hd]
    exact delete_turnsAway h hno

/-! ## The table -/

/-- Requests without a statement leave the table alone. -/
theorem answer_keeps_table {q : Accounts.Request} (hq : q.Within (fun _ => False) fun _ => False) :
    (w.answer q).2.table = w.table :=
  World.answer_table w fun s h => by
    subst h
    exact hq

/-! ## Serving -/

theorem asks_respond_names (h : r.Names segment) : (respond site r).Asks
    (Within (fun s => ∃ id, Uuid.read (String.ofList segment) = .ok id ∧ Store.Rewrites id s)
      fun c => ∃ id, Uuid.read (String.ofList segment) = .ok id ∧ Cache.Drops id c) := by
  unfold respond
  rcases destination_of_names h with hd | hd
  · rw [hd]
    exact asks_handle_update site r _
  · rw [hd]
    exact asks_handle_delete site r _

theorem asks_respond_other (h : ∀ segment, ¬ r.Names segment) :
    (respond site r).Asks (Within (fun s => ∀ id, ¬ Store.Rewrites id s) fun _ => True) := by
  unfold respond
  split
  · exact asks_pure _
  · rename_i e argument hd
    refine asks_handle_other site r argument (fun he => ?_) fun he => ?_
    · exact h _ (names_of_destination hd (.inl he))
    · exact h _ (names_of_destination hd (.inr he))
  · exact asks_throw _
  · exact asks_pure _
  · exact asks_throw _

/-- Serving a request exchanges nothing but what the response to it takes, and events. -/
theorem mem_trace_serve {x : Exchange} (h : x ∈ (serve site r).trace w) :
    x ∈ (respond site r).trace w ∨ ∃ event, x.request = .log event := by
  unfold serve at h
  split at h
  · cases h
  · rw [Program.trace_bind] at h
    rcases List.mem_append.1 h with h | h
    · exact .inl h
    · rw [Program.trace_bind] at h
      rcases List.mem_append.1 h with h | h
      · unfold logRefusal at h
        split at h
        · cases h
        · split at h
          · rcases List.mem_singleton.1 h with rfl
            exact .inr ⟨_, rfl⟩
          · cases h
      · cases h

theorem trace_serve_within {S : Store.Statement → Prop} {C : Cache.Command → Prop}
    (h : ∀ x ∈ (respond site r).trace w, x.request.Within S C) :
    ∀ x ∈ (serve site r).trace w, x.request.Within S C := by
  intro x hx
  rcases mem_trace_serve hx with hx | ⟨event, he⟩
  · exact h x hx
  · rw [he]
    trivial

/-- No refusal is a success. -/
theorem Refusal.le_status (refusal : Refusal) : 400 ≤ refusal.status := by
  cases refusal with
  | failed f =>
    show 400 ≤ kindStatus f.cause.kind
    cases f.cause.kind <;> decide
  | invalidInput | otherMethod | unreadableBody | unauthorized | forbidden | notFound | timedOut
    | unforeseen => simp [status]

theorem Refusal.response_status (refusal : Refusal) : refusal.response.status = refusal.status := by
  unfold Refusal.response
  split <;> rfl

theorem responseOf_status (site : Site) (r : Request) (refusal : Refusal) :
    (site.responseOf r (.error refusal)).status = refusal.status := by
  rw [← refusal.response_status]
  unfold Site.responseOf
  split
  · contradiction
  · rename_i h
    cases h
    rfl
  · rename_i h
    cases h
    rfl

theorem toMethod_status (method : String) (response : Response) :
    (response.toMethod method).status = response.status := by
  unfold Response.toMethod
  split <;> rfl

/-- A request that is turned away gets no success. -/
theorem serve_status (hq : questionResponse? site.origins r = none)
    (h : TurnsAway (respond site r) w) : 400 ≤ ((serve site r).run w).1.status := by
  obtain ⟨refusal, hrefusal⟩ := h.refused
  obtain ⟨events, hserve⟩ := run_serve hq w
  rw [hserve, hrefusal]
  show 400 ≤ ((site.responseOf r (.error refusal)).toMethod r.method).status
  rw [toMethod_status, responseOf_status]
  exact refusal.le_status

/-! ## Cookies -/

/-- Two requests differ at most in their cookies. -/
structure Request.SameButCookies (r r' : Request) : Prop where
  method : r'.method = r.method
  target : r'.target = r.target
  body : r'.body = r.body
  values : ∀ name, name ≠ "cookie" → r'.values name = r.values name

section Cookies

variable {r' : Request} {token : String}

theorem Request.SameButCookies.header? (h : r.SameButCookies r') {name : String}
    (hn : name ≠ "cookie") : r'.header? name = r.header? name := by
  unfold Request.header?
  rw [h.values name hn]

theorem Request.SameButCookies.payload (h : r.SameButCookies r') (room : Nat) :
    r'.payload room = r.payload room := by
  unfold Request.payload
  rw [h.body, h.header? (by decide)]

theorem Request.SameButCookies.bearerToken? (h : r.SameButCookies r') :
    bearerToken? r' = bearerToken? r := by
  unfold Http.bearerToken?
  rw [h.header? (by decide)]

theorem Request.SameButCookies.destination (h : r.SameButCookies r') :
    r'.destination = r.destination := by
  unfold Request.destination Request.endpoint
  rw [h.method, h.target]

theorem Request.SameButCookies.questionResponse? (h : r.SameButCookies r')
    (origins : List String) : questionResponse? origins r' = questionResponse? origins r := by
  unfold Http.questionResponse? answerQuestion denials
  rw [h.header? (by decide), h.header? (by decide), h.header? (by decide), h.header? (by decide),
    h.method]

theorem Request.SameButCookies.responseOf (h : r.SameButCookies r') (site : Site)
    (result : Except Refusal Response) : site.responseOf r' result = site.responseOf r result := by
  have hdress (response : Response) : site.dress r' response = site.dress r response := by
    unfold Site.dress originFields
    rw [h.header? (by decide)]
  unfold Site.responseOf
  simp only [hdress]

theorem Request.SameButCookies.logRefusal (h : r.SameButCookies r')
    (result : Except Refusal Response) : logRefusal r' result = logRefusal r result := by
  have hevent (refusal : Refusal) : refusal.event? r' = refusal.event? r := by
    unfold Refusal.event? Request.path
    rw [h.method, h.target]
  unfold Http.logRefusal
  simp only [hevent]

/-- With a credential, the claims do not depend on the cookies. -/
theorem Request.SameButCookies.claims (h : r.SameButCookies r')
    (hb : Http.bearerToken? r = some token) (room : Nat) (secret name : String) :
    Http.claims room secret name r' = Http.claims room secret name r := by
  have htoken : token? name r' = token? name r := by
    unfold token?
    rw [h.bearerToken?, hb, Option.some_or, Option.some_or]
  unfold Http.claims
  rw [htoken]

theorem Request.SameButCookies.respond (h : r.SameButCookies r')
    (hb : Http.bearerToken? r = some token) (site : Site) :
    respond site r' = respond site r := by
  have hclaims : site.claims r' = site.claims r := h.claims hb _ _ _
  have hhandle (argument : String) (e : Endpoint) :
      handle site r' argument e = handle site r argument e := by
    cases e <;> simp only [handle, receive, h.payload, hclaims]
  unfold Http.respond
  simp only [h.destination, hhandle]

/-- With a credential, the cookies of a request change nothing. -/
theorem Request.SameButCookies.serve (h : r.SameButCookies r')
    (hb : Http.bearerToken? r = some token) (site : Site) : serve site r' = serve site r := by
  unfold Http.serve
  rw [h.questionResponse?, h.respond hb, h.method]
  simp only [h.logRefusal, h.responseOf]

end Cookies

/-! ## Main result -/

/-- Questions before a call have a method of their own. -/
theorem questionResponse?_of_method (h : r.method ≠ "OPTIONS") (origins : List String) :
    questionResponse? origins r = none := by
  unfold questionResponse?
  split
  · rw [if_neg h]
  · rfl

theorem questionResponse?_of_names (h : r.Names segment) (origins : List String) :
    questionResponse? origins r = none := by
  refine questionResponse?_of_method ?_ origins
  rcases h.method with hm | hm <;> rw [hm] <;> decide

theorem names_unique {other : List Char} (h : r.Names segment) (ho : r.Names other) :
    segment = other :=
  List.append_cancel_left (h.path.symm.trans ho.path)

/-- Serving a request without the authority over an account keeps its row; with it, the rest of the
table. -/
theorem serve_table (site : Site) (r : Request) (w : World) {row : Store.Row}
    (hrow : w.table.find? id = some row)
    (hchanged : ((serve site r).run w).2.table.find? id ≠ some row) :
    site.Authorizes w.now r id ∧
      ((serve site r).run w).2.table.remove id = w.table.remove id := by
  by_cases hnames : ∃ segment, r.Names segment
  · obtain ⟨segment, hseg⟩ := hnames
    by_cases hauth : ∃ id, site.Authorizes w.now r id
    · obtain ⟨owner, hown⟩ := hauth
      obtain ⟨other, hother, hread⟩ := hown.named
      rw [← names_unique hseg hother] at hread
      have hasks : ∀ x ∈ (serve site r).trace w,
          x.request.Within (Store.Rewrites owner) fun _ => True := by
        refine trace_serve_within fun x hx => ?_
        refine Within.mono (fun s hs => ?_) (fun _ _ => trivial) _
          (Program.Asks.of_mem_trace (asks_respond_names hseg) hx)
        obtain ⟨found, hfound, hs⟩ := hs
        rw [hread] at hfound
        cases hfound
        exact hs
      have hrest : ((serve site r).run w).2.table.remove owner = w.table.remove owner :=
        Program.run_keeps (I := fun w' => w'.table.remove owner = w.table.remove owner) hasks
          (fun q w' hq hw' => (World.answer_keeps_rest hq).trans hw') rfl
      by_cases howner : id = owner
      · subst howner
        exact ⟨hown, hrest⟩
      · refine absurd ?_ hchanged
        rw [← Store.Table.find?_remove_of_ne howner, hrest, Store.Table.find?_remove_of_ne howner,
          hrow]
    · rw [not_exists] at hauth
      refine absurd ?_ hchanged
      have hkeeps := Program.run_keeps (I := fun w' => w'.table = w.table)
        (trace_serve_within (respond_turnsAway hseg hauth).silent)
        (fun q w' hq hw' => (answer_keeps_table hq).trans hw') rfl
      rw [hkeeps, hrow]
  · rw [not_exists] at hnames
    refine absurd ?_ hchanged
    exact Program.run_keeps (I := fun w' => w'.table.find? id = some row)
      (trace_serve_within fun x hx => Program.Asks.of_mem_trace (asks_respond_other hnames) hx)
      (fun q w' hq hw' => World.answer_keeps_row hq hw') hrow

/-- **Requests rewrite their own row only.**  In every world, whatever faults are met: a request
that changes or deletes the row of an account named it and carried a valid token for it, and left
all other rows alone; a request that names an account without such a token runs no statement, sends
no command and gets no success; and no cookie counts beside a credential. -/
theorem http_rewrites_own_row_only (setup : Setup) (faults : Faults) (r : Request) (w : World) :
    let x := Move.record setup ⟨.http r, faults⟩ w
    (∀ id row, w.table.find? id = some row → x.after.table.find? id ≠ some row →
      setup.site.Authorizes w.now r id ∧ x.after.table.remove id = w.table.remove id) ∧
    (∀ segment, r.Names segment → (∀ id, ¬ setup.site.Authorizes w.now r id) →
      (∀ y ∈ x.exchanges, y.request.Within (fun _ => False) fun _ => False) ∧
      ∃ response, x.answer = .ok (.response response) ∧ 400 ≤ response.status) ∧
    ∀ token r', bearerToken? r = some token → r.SameButCookies r' →
      serve setup.site r' = serve setup.site r := by
  intro x
  have hanswer : x.answer = .ok (.response ((serve setup.site r).run (w.facing faults)).1) :=
    congrArg Prod.fst (Step.run_http setup r (w.facing faults))
  have htable : x.after.table = ((serve setup.site r).run (w.facing faults)).2.table :=
    congrArg (fun y => y.2.table) (Step.run_http setup r (w.facing faults))
  have hexchanges : x.exchanges = (serve setup.site r).trace (w.facing faults) :=
    Step.trace_http setup r (w.facing faults)
  refine ⟨fun id row hrow hchanged => ?_, fun segment hseg hno => ?_, fun token r' hb hsame => ?_⟩
  · rw [htable] at hchanged ⊢
    exact serve_table setup.site r (w.facing faults) hrow hchanged
  · have haway : TurnsAway (respond setup.site r) (w.facing faults) := respond_turnsAway hseg hno
    refine ⟨?_, _, hanswer, serve_status (questionResponse?_of_names hseg _) haway⟩
    rw [hexchanges]
    exact trace_serve_within haway.silent
  · exact hsame.serve hb setup.site

end Accounts.Http
