import Accounts.Proofs.Http.Ownership
import Accounts.Proofs.World.Run
import Mathlib.Tactic.ByContra

/-!
# Security fields

Every response has the fields that keep it from being stored, guessed at or framed, once and with
their values, but for two: the answer to a question before a call, and the text for what nothing was
made for.  These two are the same in every world, and carry neither JSON nor a cookie.

    response = site.dress r inner  ->  shielded
    question, or unforeseen        ->  bare
-/

namespace Accounts.Http

open Handler

variable {α β : Type} {site : Site} {r : Request} {w : World} {P : α → Prop}
  {names : List String} {fields others : Headers}

/-! ## Fields -/

/-- The values of the fields of a name. -/
def fieldValues (name : String) (fields : Headers) : List String :=
  fields.filterMap fun field => if field.1 = name then some field.2 else none

@[simp] theorem fieldValues_append (name : String) (fields others : Headers) :
    fieldValues name (fields ++ others) = fieldValues name fields ++ fieldValues name others :=
  List.filterMap_append

/-- Every security field is there once, with its value. -/
def Response.Shielded (response : Response) : Prop :=
  ∀ field ∈ securityFields, fieldValues field.1 response.headers = [field.2]

/-- No field has one of some names. -/
def Avoids (names : List String) (fields : Headers) : Prop := ∀ field ∈ fields, field.1 ∉ names

/-- A response without security fields. -/
def Response.IsBare (response : Response) : Prop :=
  Avoids (securityFields.map Prod.fst) response.headers

theorem Avoids.nil : Avoids names [] := fun _ h => nomatch h

theorem Avoids.cons {name value : String} (hname : name ∉ names) (h : Avoids names fields) :
    Avoids names ((name, value) :: fields) :=
  List.forall_mem_cons.2 ⟨hname, h⟩

theorem Avoids.append (h : Avoids names fields) (ho : Avoids names others) :
    Avoids names (fields ++ others) :=
  List.forall_mem_append.2 ⟨h, ho⟩

theorem Avoids.mono {fewer : List String} (h : Avoids names fields)
    (hfewer : ∀ name ∈ fewer, name ∈ names) : Avoids fewer fields :=
  fun field hfield hname => h field hfield (hfewer _ hname)

theorem Avoids.fieldValues {name : String} (h : Avoids names fields) (hname : name ∈ names) :
    fieldValues name fields = [] :=
  List.filterMap_eq_nil_iff.2 fun field hfield =>
    if_neg fun heq => h field hfield (by rw [heq]; exact hname)

/-- Every field has one of some names. -/
def Named (names : List String) (fields : Headers) : Prop := ∀ field ∈ fields, field.1 ∈ names

theorem Named.nil : Named names [] := fun _ h => nomatch h

theorem Named.cons {name value : String} (hname : name ∈ names) (h : Named names fields) :
    Named names ((name, value) :: fields) :=
  List.forall_mem_cons.2 ⟨hname, h⟩

theorem Named.append (h : Named names fields) (ho : Named names others) :
    Named names (fields ++ others) :=
  List.forall_mem_append.2 ⟨h, ho⟩

theorem Named.avoids {own : List String} (h : Named own fields)
    (hnames : ∀ name ∈ own, name ∉ names) : Avoids names fields :=
  fun field hfield => hnames field.1 (h field hfield)

theorem avoids_grantFields (h : "access-control-allow-origin" ∉ names) (origins : List String)
    (origin : String) : Avoids names (grantFields origins origin) := by
  unfold grantFields
  split
  · exact .cons h .nil
  · exact .nil

/-- The names of the fields about origins. -/
def originNames : List String :=
  ["vary", "access-control-allow-credentials", "access-control-allow-origin"]

theorem avoids_originFields (h : ∀ name ∈ originNames, name ∉ names) (origins : List String)
    (r : Request) : Avoids names (originFields origins r) := by
  unfold originFields
  refine .cons (h _ (by decide)) ?_
  split
  · exact .cons (h _ (by decide)) (avoids_grantFields (h _ (by decide)) _ _)
  · exact .nil

/-- A response that is dressed is shielded, unless it had security fields of its own. -/
theorem shielded_dress {response : Response} (h : response.IsBare) (site : Site)
    (r : Request) : (site.dress r response).Shielded := by
  intro field hfield
  have hown : fieldValues field.1 securityFields = [field.2] := by
    revert field
    decide
  show fieldValues field.1 ((response.headers ++ securityFields) ++ originFields site.origins r) = _
  have hname : field.1 ∈ securityFields.map Prod.fst := List.mem_map_of_mem hfield
  rw [fieldValues_append, fieldValues_append, Avoids.fieldValues h hname, hown,
    (avoids_originFields (by decide) site.origins r).fieldValues hname]
  rfl

theorem Response.IsBare.not_shielded {response : Response} (h : response.IsBare) :
    ¬ response.Shielded := by
  intro hshielded
  have hone := hshielded ("x-frame-options", "DENY") (by decide)
  rw [Avoids.fieldValues h (by decide)] at hone
  cases hone

theorem headers_toMethod (method : String) (response : Response) :
    (response.toMethod method).headers = response.headers := by
  unfold Response.toMethod
  split <;> rfl

/-! ## Results -/

/-- Whatever a handler gives, in whatever world, has a property. -/
def Gives (P : α → Prop) (h : Handler α) : Prop := ∀ w a, (h.run w).1 = .ok a → P a

theorem gives_pure {a : α} (h : P a) : Gives P (pure a) := by
  intro w b hb
  cases hb
  exact h

theorem gives_throw (refusal : Refusal) : Gives P (throw refusal : Handler α) :=
  fun _ _ h => nomatch h

theorem Gives.after {f : β → Handler α} (hf : ∀ b, Gives P (f b)) (h : Handler β) :
    Gives P (h >>= f) := by
  intro w a ha
  rw [run_bind] at ha
  rcases hrun : h.run w with ⟨refusal | b, w'⟩
  · rw [hrun] at ha
    cases ha
  · rw [hrun] at ha
    exact hf b w' a ha

/-- The names of the fields that endpoints and refusals give to responses. -/
def ownNames : List String :=
  ["content-type", "set-cookie", "location", "allow", "www-authenticate"]

/-- A response before it is dressed: all its fields are of an endpoint or a refusal. -/
def Response.IsUndressed (response : Response) : Prop := Named ownNames response.headers

theorem Response.IsUndressed.bare {response : Response} (h : response.IsUndressed) :
    response.IsBare :=
  h.avoids (by decide)

theorem isUndressed_ofJson (status : Nat) (j : Json) : (Response.ofJson status j).IsUndressed :=
  .cons (by decide) .nil

theorem gives_withCookie (field : Option String) {response : Response}
    (h : response.IsUndressed) :
    Gives Response.IsUndressed (withCookie field response) := by
  cases field with
  | none => exact gives_throw _
  | some field => exact gives_pure (Named.append h (.cons (by decide) .nil))

/-- No endpoint gives a field about security or origins. -/
theorem handle_gives_undressed (site : Site) (r : Request) (argument : String) (e : Endpoint) :
    Gives Response.IsUndressed (handle site r argument e) := by
  have hprofile (h : Handler Account) :
      Gives Response.IsUndressed (h >>= fun account => pure (profileResponse account)) :=
    .after (fun account => gives_pure (isUndressed_ofJson _ _)) h
  cases e with
  | health => exact .after (fun _ => .after (fun _ => gives_pure (isUndressed_ofJson _ _)) _) _
  | register | login =>
    exact .after (fun _ => .after (fun _ => gives_withCookie _ (isUndressed_ofJson _ _)) _) _
  | me | find => exact .after (fun _ => hprofile _) _
  | update =>
    refine .after (fun payload => ?_) _
    refine .after (fun claims => ?_) _
    refine .after (fun p => ?_) _
    exact .after (fun _ => hprofile _) _
  | delete =>
    refine .after (fun claims => ?_) _
    refine .after (fun id => ?_) _
    refine .after (fun _ => ?_) _
    refine .after (fun _ => ?_) _
    exact .after (fun now => gives_withCookie _ (isUndressed_ofJson _ _)) _

theorem respond_gives_undressed (site : Site) (r : Request) :
    Gives Response.IsUndressed (respond site r) := by
  unfold respond
  split
  · exact gives_pure (Named.cons (by decide) .nil)
  · exact handle_gives_undressed site r _ _
  · exact gives_throw _
  · exact gives_pure (Named.cons (by decide) .nil)
  · exact gives_throw _

theorem Refusal.named_fields (refusal : Refusal) : Named ownNames refusal.fields := by
  unfold Refusal.fields
  split
  · exact .cons (by decide) .nil
  · split
    · exact .cons (by decide) .nil
    · exact .nil

theorem Refusal.isUndressed_response (refusal : Refusal) : refusal.response.IsUndressed := by
  unfold Refusal.response
  split
  · exact Named.cons (by decide) .nil
  · exact Named.append (isUndressed_ofJson _ _) refusal.named_fields

/-! ## Responses -/

/-- The response for a result is dressed, unless nothing was made for it. -/
theorem responseOf_cases (site : Site) (r : Request) (result : Except Refusal Response) :
    site.responseOf r result = Refusal.response .unforeseen ∨
    ∃ inner, site.responseOf r result = site.dress r inner ∧
      (result = .ok inner ∨ ∃ refusal : Refusal, inner = refusal.response) := by
  rcases result with refusal | response
  · cases refusal with
    | unforeseen => exact .inl rfl
    | _ => exact .inr ⟨_, rfl, .inr ⟨_, rfl⟩⟩
  · exact .inr ⟨_, rfl, .inl rfl⟩

/-- Every way to a response: a question is answered, nothing was made for what happened, or what an
endpoint or a refusal gives is dressed. -/
theorem serve_outcomes (site : Site) (r : Request) (w : World) :
    questionResponse? site.origins r = some ((serve site r).run w).1 ∨
    questionResponse? site.origins r = none ∧
      (((serve site r).run w).1 = (Refusal.response .unforeseen).toMethod r.method ∨
        ∃ inner : Response, inner.IsUndressed ∧
          ((serve site r).run w).1 = (site.dress r inner).toMethod r.method) := by
  cases hq : questionResponse? site.origins r with
  | some response =>
    rw [run_serve_of_question hq]
    exact .inl rfl
  | none =>
    obtain ⟨events, hserve⟩ := run_serve hq w
    refine .inr ⟨rfl, ?_⟩
    rw [hserve]
    dsimp only
    rcases responseOf_cases site r ((respond site r).run w).1 with h | ⟨inner, h, hinner⟩
    · exact .inl (by rw [h])
    · have hundressed : inner.IsUndressed := by
        rcases hinner with hok | ⟨refusal, rfl⟩
        · exact respond_gives_undressed site r w inner hok
        · exact refusal.isUndressed_response
      exact .inr ⟨inner, hundressed, by rw [h]⟩

/-- What is dressed is shielded, so every response is but the answer to a question and the text for
what nothing was made for. -/
theorem serve_cases (site : Site) (r : Request) (w : World) :
    questionResponse? site.origins r = some ((serve site r).run w).1 ∨
    questionResponse? site.origins r = none ∧
      (((serve site r).run w).1 = (Refusal.response .unforeseen).toMethod r.method ∨
        ((serve site r).run w).1.Shielded) := by
  rcases serve_outcomes site r w with hq | ⟨hq, hunforeseen | ⟨inner, hinner, hdressed⟩⟩
  · exact .inl hq
  · exact .inr ⟨hq, .inl hunforeseen⟩
  · refine .inr ⟨hq, .inr ?_⟩
    rw [hdressed]
    unfold Response.Shielded
    rw [headers_toMethod]
    exact shielded_dress hinner.bare site r

/-- The names of the fields that tell what a response holds, of the cookie, and of security. -/
def tellingNames : List String :=
  "content-type" :: "set-cookie" :: securityFields.map Prod.fst

/-- A response that is a text or nothing, sets no cookie and has no security field. -/
structure Response.IsPlain (response : Response) : Prop where
  bare : response.IsBare
  body : ∀ j, response.body ≠ .json j
  contentType : fieldValues "content-type" response.headers = ["text/plain; charset=utf-8"]
  cookies : fieldValues "set-cookie" response.headers = []
  status : response.status ∈ [200, 400, 500]

theorem isPlain_ofText {status : Nat} (hstatus : status ∈ [200, 400, 500]) (s : String)
    (h : Avoids tellingNames fields) : ((Response.ofText status s).withFields fields).IsPlain where
  bare := .cons (by decide) (h.mono fun _ => List.mem_cons_of_mem _ ∘ List.mem_cons_of_mem _)
  body _ hbody := nomatch hbody
  contentType := by
    show fieldValues "content-type" ([_] ++ fields) = _
    rw [fieldValues_append, h.fieldValues (by decide)]
    rfl
  cookies := by
    show fieldValues "set-cookie" ([_] ++ fields) = _
    rw [fieldValues_append, h.fieldValues (by decide)]
    rfl
  status := hstatus

/-- The fields of the answer to a question, behind the one that grants access. -/
def answerFields (r : Request) : Headers :=
  [("access-control-allow-credentials", "true"),
    ("access-control-allow-methods", String.intercalate ", " sharedMethods),
    ("access-control-max-age", "600"),
    ("vary", String.intercalate ", " questionFields)]
  ++ ((r.header? "access-control-request-headers").map fun names =>
    ("access-control-allow-headers", names)).toList

theorem named_answerFields (r : Request) : Named ["access-control-allow-credentials",
    "access-control-allow-methods", "access-control-max-age", "vary",
    "access-control-allow-headers"] (answerFields r) := by
  refine .append ?_ ?_
  · exact .cons (by decide) (.cons (by decide) (.cons (by decide) (.cons (by decide) .nil)))
  · cases r.header? "access-control-request-headers" with
    | none => exact .nil
    | some names => exact .cons (by decide) .nil

/-- The answer to a question is a text; its status and its words alone tell what was denied. -/
theorem answerQuestion_eq (origins : List String) (origin method : String) (r : Request) :
    ∃ status ∈ [200, 400], ∃ s, answerQuestion origins origin method r =
      (Response.ofText status s).withFields (grantFields origins origin ++ answerFields r) := by
  unfold answerQuestion answerFields
  rw [List.append_assoc]
  split
  · exact ⟨200, by decide, _, rfl⟩
  · exact ⟨400, by decide, _, rfl⟩

theorem isPlain_answerQuestion (origins : List String) (origin method : String) (r : Request) :
    (answerQuestion origins origin method r).IsPlain := by
  obtain ⟨status, hstatus, s, heq⟩ := answerQuestion_eq origins origin method r
  rw [heq]
  refine isPlain_ofText (List.mem_append_left [500] hstatus) s (.append ?_ ?_)
  · exact avoids_grantFields (by decide) origins origin
  · exact (named_answerFields r).avoids (by decide)

theorem isPlain_of_question {origins : List String} {response : Response}
    (h : questionResponse? origins r = some response) : response.IsPlain := by
  unfold questionResponse? at h
  split at h
  · split at h
    · rw [← Option.some.inj h]
      exact isPlain_answerQuestion _ _ _ _
    · cases h
  · cases h

theorem isPlain_unforeseen (method : String) :
    ((Refusal.response .unforeseen).toMethod method).IsPlain := by
  obtain ⟨hbare, hbody, hcontent, hcookies, hstatus⟩ : (Refusal.response .unforeseen).IsPlain :=
    isPlain_ofText (by decide) _ (.nil : Avoids tellingNames [])
  unfold Response.toMethod
  split
  · exact ⟨hbare, fun _ => Body.noConfusion, hcontent, hcookies, hstatus⟩
  · exact ⟨hbare, hbody, hcontent, hcookies, hstatus⟩

/-- Which responses have the security fields. -/
structure Shielding (site : Site) (r : Request) (response : Response) : Prop where
  /-- All but the answer to a question before a call and the text for what nothing was made for. -/
  shielded : response.Shielded ↔ questionResponse? site.origins r ≠ some response ∧
    response ≠ (Refusal.response .unforeseen).toMethod r.method
  /-- So all with accounts, tokens or details of refusals, which are JSON. -/
  json : (∃ j, response.body = .json j) ∨
    "application/json" ∈ fieldValues "content-type" response.headers → response.Shielded
  /-- So all that set a cookie. -/
  cookie : fieldValues "set-cookie" response.headers ≠ [] → response.Shielded
  /-- So all refusals that tell who may do what, or that the time is over. -/
  refused : response.status ∈ [401, 403, 404, 405, 504] → response.Shielded
  /-- So all refusals of input, other than those of a question. -/
  rejected : response.status = 400 → questionResponse? site.origins r = none → response.Shielded

theorem isPlain_of_not_shielded (h : ¬ ((serve site r).run w).1.Shielded) :
    ((serve site r).run w).1.IsPlain := by
  rcases serve_cases site r w with hq | ⟨-, hunforeseen | hshielded⟩
  · exact isPlain_of_question hq
  · rw [hunforeseen]
    exact isPlain_unforeseen r.method
  · exact absurd hshielded h

theorem serve_shielding (site : Site) (r : Request) (w : World) :
    Shielding site r ((serve site r).run w).1 := by
  constructor
  case shielded =>
    constructor
    · intro h
      refine ⟨fun hq => (isPlain_of_question hq).bare.not_shielded h, fun hunforeseen => ?_⟩
      rw [hunforeseen] at h
      exact (isPlain_unforeseen r.method).bare.not_shielded h
    · rintro ⟨hquestion, hforeseen⟩
      rcases serve_cases site r w with hq | ⟨-, hunforeseen | hshielded⟩
      · exact absurd hq hquestion
      · exact absurd hunforeseen hforeseen
      · exact hshielded
  case json =>
    intro hjson
    by_contra hno
    have hplain := isPlain_of_not_shielded hno
    rcases hjson with ⟨j, hbody⟩ | hcontent
    · exact hplain.body j hbody
    · rw [hplain.contentType] at hcontent
      exact absurd hcontent (by decide)
  case cookie =>
    intro hcookie
    by_contra hno
    exact hcookie (isPlain_of_not_shielded hno).cookies
  case refused =>
    intro hstatus
    by_contra hno
    have hplain := (isPlain_of_not_shielded hno).status
    revert hstatus hplain
    generalize ((serve site r).run w).1.status = status
    simp only [List.mem_cons, List.not_mem_nil, or_false]
    omega
  case rejected =>
    intro hstatus hquestion
    rcases serve_cases site r w with hq | ⟨-, hunforeseen | hshielded⟩
    · rw [hquestion] at hq
      cases hq
    · rw [hunforeseen, toMethod_status] at hstatus
      cases hstatus
    · exact hshielded

/-- **Responses are shielded.**  Every request gets a response, and it has the security fields
unless it is the answer to a question before a call or the text for what nothing was made for. -/
theorem responses_are_shielded (setup : Setup) (faults : Faults) (r : Request) (w : World) :
    ∃ response, (Move.record setup ⟨.http r, faults⟩ w).answer = .ok (.response response) ∧
      Shielding setup.site r response :=
  ⟨_, congrArg Prod.fst (Step.run_http setup r (w.facing faults)),
    serve_shielding setup.site r (w.facing faults)⟩

/-- A question from a site that has no access. -/
def sampleQuestion : Request where
  method := "OPTIONS"
  target := ⟨"/auth/me".toList, []⟩
  headers := [("Origin", "https://evil.example"), ("Access-Control-Request-Method", "GET")]
  body := ""

theorem refused_question_is_bare : ∃ response,
    (Move.record .sample ⟨.http sampleQuestion, {}⟩ (World.fresh 0 "")).answer =
      .ok (.response response) ∧ response.status = 400 ∧ ¬ response.Shielded := by
  have horigin : sampleQuestion.header? "origin" = some "https://evil.example" := by
    decide +kernel
  have hmethod : sampleQuestion.header? "access-control-request-method" = some "GET" := by
    decide +kernel
  have hq : questionResponse? Setup.sample.site.origins sampleQuestion =
      some (answerQuestion [] "https://evil.example" "GET" sampleQuestion) := by
    unfold questionResponse?
    rw [horigin, hmethod]
    rfl
  have hanswer : (Move.record .sample ⟨.http sampleQuestion, {}⟩ (World.fresh 0 "")).answer =
      .ok (.response ((serve Setup.sample.site sampleQuestion).run
        ((World.fresh 0 "").facing {})).1) :=
    congrArg Prod.fst (Step.run_http .sample sampleQuestion _)
  rw [run_serve_of_question hq] at hanswer
  exact ⟨_, hanswer, by decide +kernel, (isPlain_of_question hq).bare.not_shielded⟩

end Accounts.Http
